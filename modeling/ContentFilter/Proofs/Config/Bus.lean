import ContentFilter.Config.Bus
import ContentFilter.Proofs.Task

/-! What one change of the configuration does, and what it leaves of what a subscriber has handled. -/

namespace ContentFilter

/-- The configuration is the same or a newer one. -/
def Bus.Grows (bus bus' : Bus) : Prop :=
  bus'.version = bus.version ∧ bus'.config = bus.config ∨ bus.version < bus'.version

/-- One subscriber has handled what it had, and the configuration is the same or a newer one. -/
structure Bus.Aside (subscriber : Nat) (bus bus' : Bus) : Prop where
  handled : ∀ version, (subscriber, version) ∈ bus'.handled ↔ (subscriber, version) ∈ bus.handled
  grows : bus.Grows bus'

namespace Bus

variable {subscriber : Nat}

@[simp] theorem update_config (f : Config → Config) (bus : Bus) :
    (update f bus).2.config = f bus.config := by
  rw [update]
  split
  · next h => exact h.symm
  · rfl

theorem update_version (f : Config → Config) (bus : Bus) : (update f bus).2.version =
    if f bus.config = bus.config then bus.version else bus.version + 1 := by
  rw [update]
  split <;> rfl

@[simp] theorem update_nextSubscriber (f : Config → Config) (bus : Bus) :
    (update f bus).2.nextSubscriber = bus.nextSubscriber := by
  rw [update]
  split <;> rfl

theorem Grows.version_le {bus bus' : Bus} (h : bus.Grows bus') : bus.version ≤ bus'.version := by
  rcases h with ⟨heq, -⟩ | hlt
  · exact Nat.le_of_eq heq.symm
  · exact Nat.le_of_lt hlt

theorem Aside.refl (bus : Bus) : Aside subscriber bus bus := ⟨fun _ => .rfl, .inl ⟨rfl, rfl⟩⟩

theorem aside_update (f : Config → Config) (bus : Bus) : Aside subscriber bus (update f bus).2 := by
  rw [update]
  split
  · exact .refl bus
  · exact ⟨fun _ => .rfl, .inr (Nat.lt_succ_self bus.version)⟩

theorem aside_acknowledge {subscription : Subscription} (hother : subscription.id ≠ subscriber)
    (bus : Bus) : Aside subscriber bus (bus.acknowledge subscription) := by
  refine ⟨fun version => ⟨fun h => ?_, fun h => ?_⟩, .inl ⟨rfl, rfl⟩⟩
  · obtain ⟨⟨id, old⟩, hentry, heq⟩ := List.mem_map.1 h
    dsimp only at heq
    split at heq
    · next hid =>
      cases heq
      exact absurd hid.symm hother
    · rw [← heq]
      exact hentry
  · exact List.mem_map.2 ⟨_, h, if_neg fun hid => hother hid.symm⟩

theorem aside_unsubscribe {subscription : Subscription} (hother : subscription.id ≠ subscriber)
    (bus : Bus) : Aside subscriber bus (bus.unsubscribe subscription) := by
  refine ⟨fun version => ?_, .inl ⟨rfl, rfl⟩⟩
  rw [unsubscribe, List.mem_filter]
  exact and_iff_left (bne_iff_ne.2 hother.symm)

theorem aside_subscribe {bus : Bus} (hother : subscriber ≠ bus.nextSubscriber) :
    Aside subscriber bus bus.subscribe.2 := by
  refine ⟨fun version => ?_, .inl ⟨rfl, rfl⟩⟩
  rw [subscribe, List.mem_append, List.mem_singleton, Prod.mk.injEq]
  exact or_iff_left fun h => hother h.1

/-- A round with nobody else at work is over at once, or has to wait for a subscriber. -/
theorem run?_idleRound (bus : Bus) :
    idleRound.run? bus = (if bus.isIdle then some true else none, bus) := by
  have hstart : idleRound.run? bus = (Task.when (hasHandled bus.version) (fun bus => ((), bus)) >>= fun _ =>
      Task.read (·.version) >>= fun latest => pure (latest == bus.version)).run? bus := rfl
  rw [hstart, isIdle]
  cases hhandled : hasHandled bus.version bus with
  | true =>
    refine (Task.run?_step_of_ready hhandled).trans ?_
    change (some (bus.version == bus.version), bus) = _
    rw [beq_self_eq_true, if_pos rfl]
  | false => exact Task.run?_step_of_not_ready hhandled

end Bus

end ContentFilter
