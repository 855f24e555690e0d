import ContentFilter.Rule.Basic

/-!
Families of rules. Each owns a range of numbers and is replaced as a whole, so replacing one family
cannot touch another.
-/

namespace ContentFilter

inductive RuleFamily where
  | pause
  | trustedDomains
  | redirectProtection
  /-- Rules for one tab, which live until the browser restarts. -/
  | redirectAllowOnce
  | safeMode
  | exceptions
  | customFilters
  | fixes
  deriving DecidableEq, Repr

namespace RuleFamily

/-- Every family, in the order of submission. -/
def all : List RuleFamily :=
  [.pause, .trustedDomains, .redirectProtection, .redirectAllowOnce, .safeMode, .exceptions,
    .customFilters, .fixes]

def name : RuleFamily → String
  | .pause => "pause"
  | .trustedDomains => "trustedDomains"
  | .redirectProtection => "redirectProtection"
  | .redirectAllowOnce => "redirectAllowOnce"
  | .safeMode => "safeMode"
  | .exceptions => "exceptions"
  | .customFilters => "customFilters"
  | .fixes => "fixes"

/-- The first number of the family's range. -/
def start : RuleFamily → Nat
  | .pause => 1
  | .redirectProtection => 1000
  | .redirectAllowOnce => 2000
  | .safeMode => 3000
  | .trustedDomains => 3100
  | .exceptions => 1000000
  | .customFilters => 2000000
  | .fixes => 3000000

/-- The number after the last of the range. -/
def stop : RuleFamily → Nat
  | .pause => 1000
  | .redirectProtection => 2000
  | .redirectAllowOnce => 3000
  | .safeMode => 3010
  | .trustedDomains => 3200
  | .exceptions => 2000000
  | .customFilters => 3000000
  | .fixes => 4000000

def isSession (family : RuleFamily) : Bool := family == .redirectAllowOnce

def contains (family : RuleFamily) (id : Nat) : Bool := family.start ≤ id && id < family.stop

def capacity (family : RuleFamily) : Nat := family.stop - family.start

/-- The family that a number belongs to. -/
def of? (id : Nat) : Option RuleFamily := all.find? (·.contains id)

theorem ranges_apart (a b : RuleFamily) : a = b ∨ a.stop ≤ b.start ∨ b.stop ≤ a.start := by
  cases a <;> cases b <;> decide

theorem eq_of_contains {a b : RuleFamily} {id : Nat} (ha : a.contains id = true)
    (hb : b.contains id = true) : a = b := by
  simp only [contains, Bool.and_eq_true, decide_eq_true_eq] at ha hb
  rcases ranges_apart a b with h | h | h
  · exact h
  · omega
  · omega

/-- A family has more rules than numbers. -/
structure Overflow where
  family : RuleFamily
  count : Nat
  deriving DecidableEq, Repr

/-- Number the rules from the start of the range. -/
def assign (family : RuleFamily) (rules : List Rule) : Except Overflow (List Rule) :=
  if family.capacity < rules.length then .error ⟨family, rules.length⟩
  else .ok (rules.zipIdx.map fun (rule, i) => { rule with id := family.start + i })

end RuleFamily

end ContentFilter
