import ContentFilter.Engine.Source
import ContentFilter.Proofs.Config.ListName
import ContentFilter.Proofs.Text.Lower
import ContentFilter.Proofs.Url.Below

/-! The files of a list, which are looked up by its name, and the addresses of these files. A name made
from a region leads elsewhere when the region has a slash or something like a scheme in it. -/

namespace ContentFilter.Url

open Text (lower)

variable {s ending : List Char}

theorem clean_of_ends (hhead : ∀ c, s.head? = some c → 0x20 < c.toNat)
    (hlast : ∀ c, s.getLast? = some c → 0x20 < c.toNat) : clean s = s.filter isMeant := by
  have hstart : s.dropWhile (fun c => decide (c.toNat ≤ 0x20)) = s := by
    cases s with
    | nil => rfl
    | cons c s =>
      have hc := hhead c rfl
      exact List.dropWhile_cons_of_neg (by simpa using hc)
  have hend : Text.dropEndWhile (fun c => decide (c.toNat ≤ 0x20)) s = s := by
    rw [Text.dropEndWhile_eq_rdropWhile, List.rdropWhile_eq_self_iff]
    intro hne
    have hc := hlast _ (List.getLast?_eq_some_getLast hne)
    simpa using hc
  rw [clean, hstart, hend]
  rfl

theorem clean_subset (s : List Char) : clean s ⊆ s := by
  intro c hc
  have hkept := (List.mem_filter.1 hc).1
  rw [Text.dropEndWhile_eq_rdropWhile] at hkept
  exact (List.dropWhile_sublist _).subset ((List.rdropWhile_prefix _ _).subset hkept)

theorem isSchemeChar_toLower (c : Char) : isSchemeChar c.toLower = isSchemeChar c := by
  rcases Domain.toLower_cases c with h | ⟨hlow, hhigh, hsum⟩
  · rw [h]
  · have hupper : isSchemeChar c = true := isSchemeChar_of_isAlpha (Text.isAlpha_iff.2 (by omega))
    have hlower : isSchemeChar c.toLower = true :=
      isSchemeChar_of_isAlpha (Text.isAlpha_iff.2 (by omega))
    rw [hupper, hlower]

theorem isMeant_toLower (c : Char) : isMeant c.toLower = isMeant c := by
  have hsame : ∀ {d : Char}, d.isAlpha = false → (c.toLower != d) = (c != d) := by
    intro d hd
    rw [Bool.eq_iff_iff, bne_iff_ne, bne_iff_ne, ne_eq, Text.toLower_eq_iff hd]
  rw [isMeant, hsame (by decide), hsame (by decide), hsame (by decide), isMeant]

theorem goesOnWithScheme_lower : GoesOnWithScheme (lower s) ↔ GoesOnWithScheme s := by
  have hfilter : (lower s).filter isMeant = lower (s.filter isMeant) := by
    rw [lower, List.filter_map, lower]
    exact congrArg _ (List.filter_congr fun c _ => isMeant_toLower c)
  rw [GoesOnWithScheme, hfilter, Text.dropWhile_lower isSchemeChar_toLower, lower, List.head?_map,
    GoesOnWithScheme]
  cases (s.filter isMeant).dropWhile isSchemeChar with
  | nil => simp
  | cons c rest => simpa using Text.toLower_eq_iff (by decide)

theorem head?_dropWhile_append {c : Char} {p : Char → Bool} (h : c ∉ ending) :
    ((s ++ ending).dropWhile p).head? = some c ↔ (s.dropWhile p).head? = some c := by
  rw [List.dropWhile_append]
  split
  · next hnil =>
    rw [List.isEmpty_iff.1 hnil]
    constructor
    · intro hhead
      exact absurd ((List.dropWhile_sublist p).subset (List.mem_of_mem_head? hhead)) h
    · intro hhead
      cases hhead
  · next hne =>
    rw [List.head?_append_of_ne_nil _ (by simpa using hne)]

end ContentFilter.Url

namespace ContentFilter.FileSource

/-- The files of a list: its text and its snapshot. The store keeps the snapshot under the same name. -/
def filesOf (name : String) : List String := [listFile name, snapshotFile name]

/-- A name that leads one step down from where it is looked up, whatever stands between steps there. -/
structure IsStep (file : String) : Prop where
  slash : '/' ∉ file.toList
  backslash : '\\' ∉ file.toList
  step : file ∉ ["", ".", ".."]

/-- There is an address of the file below every base address that something can be resolved against,
and none for the others. -/
structure StaysBelow (file : String) : Prop where
  below {base : String} {baseUrl : Url.AbsoluteUrl} (hbase : listBase base = .ok baseUrl)
    (hwhole : baseUrl.isWhole = false) :
    ∃ url, listUrl base file = .ok (String.ofList url.chars) ∧ baseUrl.IsBelow url
  nowhere {base : String} {baseUrl : Url.AbsoluteUrl} (hbase : listBase base = .ok baseUrl)
    (hwhole : baseUrl.isWhole = true) (text : String) : listUrl base file ≠ .ok text

structure IsConfined (file : String) : Prop where
  step : IsStep file
  below : StaysBelow file

variable {file : String}

/-- The address of a name without slashes is where the base leads with it. -/
theorem listUrl_eq {base : String} {baseUrl : Url.AbsoluteUrl} (hbase : listBase base = .ok baseUrl)
    (hslash : '/' ∉ file.toList) : listUrl base file =
      ((baseUrl.join file.toList).mapError fun cause => .fetch file (.url cause)).map
        fun url => String.ofList url.chars := by
  have hdrop : file.toList.dropWhile (· == '/') = file.toList := by
    cases hchars : file.toList with
    | nil => rfl
    | cons c rest =>
      rw [hchars, List.mem_cons, not_or] at hslash
      exact List.dropWhile_cons_of_neg (by simpa using Ne.symm hslash.1)
  simp only [listUrl, hbase, hdrop, bind, Except.bind]
  cases baseUrl.join file.toList with
  | error cause => rfl
  | ok url => rfl

theorem exists_filePath_of_listBase {base : String} {baseUrl : Url.AbsoluteUrl}
    (h : listBase base = .ok baseUrl) (hfile : baseUrl.scheme = Url.fileScheme) :
    ∃ path, baseUrl.path = Url.filePath path := by
  rw [listBase] at h
  cases hparse : Url.parseUrl (Text.dropEndWhile (· == '/') base.toList ++ ['/']) with
  | error cause =>
    rw [hparse] at h
    cases h
  | ok url =>
    rw [hparse] at h
    cases h
    exact Url.exists_filePath_of_parseUrl hparse hfile

theorem IsStep.staysBelow (h : IsStep file) (hplain : Url.IsPlainReference (Url.clean file.toList)) :
    StaysBelow file := by
  constructor
  · intro base baseUrl hbase hwhole
    obtain ⟨url, hjoin, hbelow⟩ :=
      Url.AbsoluteUrl.exists_join hplain (exists_filePath_of_listBase hbase) hwhole
    refine ⟨url, ?_, hbelow⟩
    rw [listUrl_eq hbase h.slash, hjoin]
    rfl
  · intro base baseUrl hbase hwhole text heq
    rw [listUrl_eq hbase h.slash, Url.AbsoluteUrl.join_of_isWhole hplain hwhole] at heq
    cases heq

/-- What cleaning leaves of a name without slashes has none. -/
theorem IsStep.noSlash (h : IsStep file) :
    ∀ c ∈ Url.clean file.toList, Url.isSlash true c = false := by
  intro c hc
  have hmem : c ∈ file.toList := Url.clean_subset _ hc
  have hslash : c ≠ '/' := fun heq => h.slash (heq ▸ hmem)
  have hback : c ≠ '\\' := fun heq => h.backslash (heq ▸ hmem)
  simp [Url.isSlash, hslash, hback]

end ContentFilter.FileSource

namespace ContentFilter.ListName

open FileSource (filesOf IsStep StaysBelow IsConfined listUrl_eq)
open Url (clean isMeant GoesOnWithScheme)

/-- A region whose list is no other place: it has no slash of either kind, and after the letters that
the name starts with it does not go on to the colon of a scheme. -/
structure IsPlainRegion (region : String) : Prop where
  slash : '/' ∉ region.toList
  backslash : '\\' ∉ region.toList
  scheme : ¬ GoesOnWithScheme (Text.trim region.toList)

/-- The files of the lists that are always of the same name. -/
theorem isConfined_of_mem {name file : String}
    (hname : name ∈ [ads, tracking, annoyances, custom, elementPicker]) (hfile : file ∈ filesOf name) :
    IsConfined file := by
  have hall : ∀ name ∈ [ads, tracking, annoyances, custom, elementPicker], ∀ file ∈ filesOf name,
      ('/' ∉ file.toList ∧ '\\' ∉ file.toList ∧ file ∉ ["", ".", ".."]) ∧
        Url.splitScheme? (clean file.toList) = none ∧
          Url.startsWithLetters (clean file.toList) = true := by decide
  obtain ⟨⟨hslash, hback, hstep⟩, hscheme, hletters⟩ := hall name hname file hfile
  have hone : IsStep file := ⟨hslash, hback, hstep⟩
  exact ⟨hone, hone.staysBelow ⟨hscheme, hone.noSlash, hletters⟩⟩

section Region

variable {region file : String}

theorem toList_of_mem_files (h : file ∈ filesOf (regional region)) :
    ∃ ending ∈ [".txt".toList, ".veil".toList],
      file.toList = "lang-".toList ++ Text.lower (Text.trim region.toList) ++ ending := by
  have hregional : (regional region).toList =
      "lang-".toList ++ Text.lower (Text.trim region.toList) := by
    rw [regional, String.toList_append, String.toList_ofList, String.toList_ofList]
  simp only [filesOf, List.mem_cons, List.not_mem_nil, or_false] at h
  rcases h with rfl | rfl
  · refine ⟨_, List.mem_cons_self, ?_⟩
    rw [FileSource.listFile, String.toList_append, hregional]
  · refine ⟨_, List.mem_cons_of_mem _ List.mem_cons_self, ?_⟩
    rw [FileSource.snapshotFile, String.toList_append, hregional]

theorem mem_lower_trim {s : List Char} {c : Char} (hletter : c.isAlpha = false)
    (hblank : Text.isBlank c = false) : c ∈ Text.lower (Text.trim s) ↔ c ∈ s := by
  rw [Text.lower, List.mem_map]
  constructor
  · rintro ⟨d, hd, heq⟩
    rw [← (Text.toLower_eq_iff hletter).1 heq]
    exact (Text.trim_infix s).subset hd
  · intro hc
    exact ⟨c, Text.mem_trim hc hblank, (Text.toLower_eq_iff hletter).2 rfl⟩

/-- A mark that is neither in the first letters of the name nor in its ending. -/
theorem mem_file_iff {c : Char} (h : file ∈ filesOf (regional region))
    (hletter : c.isAlpha = false) (hblank : Text.isBlank c = false)
    (hfixed : c ∉ "lang-.txt.veil".toList) : c ∈ file.toList ↔ c ∈ region.toList := by
  obtain ⟨ending, hending, hchars⟩ := toList_of_mem_files h
  have hstart : c ∉ "lang-".toList := fun hc =>
    hfixed ((by decide : "lang-".toList ⊆ "lang-.txt.veil".toList) hc)
  have hend : c ∉ ending := by
    have hsub : ∀ ending ∈ [".txt".toList, ".veil".toList], ending ⊆ "lang-.txt.veil".toList := by
      decide
    exact fun hc => hfixed (hsub ending hending hc)
  rw [hchars, List.mem_append, List.mem_append, mem_lower_trim hletter hblank]
  exact (or_iff_left hend).trans (or_iff_right hstart)

theorem slash_mem_file (h : file ∈ filesOf (regional region)) :
    '/' ∈ file.toList ↔ '/' ∈ region.toList :=
  mem_file_iff h (by decide) (by decide) (by decide)

theorem backslash_mem_file (h : file ∈ filesOf (regional region)) :
    '\\' ∈ file.toList ↔ '\\' ∈ region.toList :=
  mem_file_iff h (by decide) (by decide) (by decide)

theorem clean_file (h : file ∈ filesOf (regional region)) :
    ∃ ending, ':' ∉ ending ∧ clean file.toList =
      "lang-".toList ++ ((Text.lower (Text.trim region.toList)).filter isMeant ++ ending) := by
  obtain ⟨ending, hending, hchars⟩ := toList_of_mem_files h
  have hfixed : ∀ ending ∈ [".txt".toList, ".veil".toList], ':' ∉ ending ∧ ending ≠ [] ∧
      ending.filter isMeant = ending ∧ (ending.all fun c => 0x20 < c.toNat) = true := by decide
  obtain ⟨hcolon, hne, hmeant, hends⟩ := hfixed ending hending
  have hclean : clean file.toList = file.toList.filter isMeant := by
    apply Url.clean_of_ends
    · intro c hc
      rw [hchars] at hc
      cases hc
      decide
    · intro c hc
      rw [hchars, List.getLast?_append_of_ne_nil _ hne] at hc
      exact of_decide_eq_true (List.all_eq_true.1 hends c (List.mem_of_getLast? hc))
  refine ⟨ending, hcolon, ?_⟩
  rw [hclean, hchars, List.filter_append, List.filter_append, hmeant, List.append_assoc]
  rfl

/-- The name has a scheme when the region goes on with one. -/
theorem splitScheme?_file (h : file ∈ filesOf (regional region)) :
    (Url.splitScheme? (clean file.toList)).isSome = true ↔
      GoesOnWithScheme (Text.trim region.toList) := by
  obtain ⟨ending, hcolon, hclean⟩ := clean_file h
  have hletter : (clean file.toList).head?.any Char.isAlpha = true := by
    rw [hclean]
    rfl
  have hstart : ∀ c ∈ "lang-".toList, Url.isSchemeChar c = true := List.all_eq_true.1 rfl
  rw [Url.splitScheme?_isSome_iff hletter, hclean, List.dropWhile_append_of_pos hstart,
    Url.head?_dropWhile_append hcolon, ← Url.goesOnWithScheme_lower, GoesOnWithScheme]

theorem IsPlainRegion.isConfined (hregion : IsPlainRegion region)
    (h : file ∈ filesOf (regional region)) : IsConfined file := by
  have hone : IsStep file := by
    constructor
    · exact mt (slash_mem_file h).1 hregion.slash
    · exact mt (backslash_mem_file h).1 hregion.backslash
    · intro hmem
      obtain ⟨ending, -, hchars⟩ := toList_of_mem_files h
      have hl : 'l' ∈ file.toList := by
        rw [hchars]
        exact List.mem_cons_self
      have hno : ∀ file ∈ ["", ".", ".."], 'l' ∉ file.toList := by decide
      exact hno file hmem hl
  refine ⟨hone, hone.staysBelow ⟨?_, hone.noSlash, ?_⟩⟩
  · rw [← Option.not_isSome_iff_eq_none, splitScheme?_file h]
    exact hregion.scheme
  · obtain ⟨ending, -, hclean⟩ := clean_file h
    rw [hclean]
    rfl

/-- A name with a scheme leads away, even from a base that is nothing but a host. -/
theorem not_staysBelow_of_scheme (h : file ∈ filesOf (regional region))
    (hslash : '/' ∉ region.toList) (hscheme : GoesOnWithScheme (Text.trim region.toList)) :
    ¬ StaysBelow file := by
  intro hbelow
  have hfile : '/' ∉ file.toList := mt (slash_mem_file h).1 hslash
  obtain ⟨⟨scheme, rest⟩, hsplit⟩ := Option.isSome_iff_exists.1 ((splitScheme?_file h).2 hscheme)
  obtain ⟨before, hcut, hlower, hne, -⟩ := Url.splitScheme?_eq_some hsplit
  have hl : scheme.head? = some 'l' := by
    obtain ⟨ending, -, hclean⟩ := clean_file h
    have hhead : (before ++ ':' :: rest).head? = some 'l' := by
      rw [← hcut, hclean]
      rfl
    rw [List.head?_append_of_ne_nil _ hne] at hhead
    rw [hlower, Text.lower, List.head?_map, hhead]
    rfl
  have hrest : '/' ∉ rest := by
    intro hmem
    apply hfile
    apply Url.clean_subset
    rw [hcut]
    exact List.mem_append_right _ (List.mem_cons_of_mem _ hmem)
  have hbase : listBase "http://[::1]" =
      .ok ⟨"http".toList, [], some "[::1]".toList, none, ['/'], none, none⟩ := by decide +kernel
  obtain ⟨url, hurl, hsame⟩ := hbelow.below hbase rfl
  obtain ⟨other, hjoin, hother⟩ :=
    Url.AbsoluteUrl.exists_join_of_splitScheme? hsplit (Url.isSpecial_eq_false hl (by decide)) hrest
  rw [listUrl_eq hbase hfile, hjoin] at hurl
  have hchars : other.chars = url.chars := String.ofList_injective (Except.ok.inj hurl)
  have hfirst : other.chars.head? = some 'l' := by
    rw [Url.AbsoluteUrl.head?_chars, hother, hl]
    rw [hother]
    rintro rfl
    cases hl
  rw [hchars, Url.AbsoluteUrl.head?_chars, hsame.scheme] at hfirst
  · cases hfirst
  · rw [hsame.scheme]
    decide

theorem isPlainRegion_of_isConfined (h : file ∈ filesOf (regional region))
    (hfile : IsConfined file) : IsPlainRegion region := by
  have hslash : '/' ∉ region.toList := mt (slash_mem_file h).2 hfile.step.slash
  have hback : '\\' ∉ region.toList := mt (backslash_mem_file h).2 hfile.step.backslash
  exact ⟨hslash, hback, fun hscheme => not_staysBelow_of_scheme h hslash hscheme hfile.below⟩

end Region

/-- The files of all lists that a configuration asks for stay where they belong, exactly when each of
its regions is plain. -/
theorem enabled_confined_iff (config : Config) :
    (∀ name ∈ enabled config, ∀ file ∈ filesOf name, IsConfined file) ↔
      (config.regionalFilters.enabled = true →
        ∀ region ∈ config.regionalFilters.regions, IsPlainRegion region) := by
  constructor
  · intro hconfined henabled region hregion
    have hfile := hconfined _ (regional_mem_enabled henabled hregion) _ List.mem_cons_self
    exact isPlainRegion_of_isConfined List.mem_cons_self hfile
  · intro hplain name hname file hfile
    rcases of_mem_enabled hname with hfixed | ⟨henabled, region, hregion, rfl⟩
    · exact isConfined_of_mem hfixed hfile
    · exact (hplain henabled region hregion).isConfined hfile

/-- A configuration whose only region has steps up in it. -/
def climbing : Config where
  blockAds := false
  blockTrackers := false
  regionalFilters := ⟨true, ["X/../../Evil "]⟩

/-- The address of its list is no longer in the directory of the base. -/
theorem climbing_not_confined :
    enabled climbing = ["lang-x/../../evil"] ∧
      (listBase "http://[::1]/v1").map (·.path) = .ok "/v1/".toList ∧
      listUrl "http://[::1]/v1" (FileSource.listFile "lang-x/../../evil") =
        .ok "http://[::1]/evil.txt" ∧
      ¬ ∀ name ∈ enabled climbing, ∀ file ∈ filesOf name, IsConfined file := by
  have hname : enabled climbing = ["lang-x/../../evil"] := by decide
  refine ⟨hname, by decide +kernel, by decide +kernel, fun hconfined => ?_⟩
  rw [hname] at hconfined
  have hfile := hconfined _ List.mem_cons_self _ List.mem_cons_self
  exact hfile.step.slash (by decide)

end ContentFilter.ListName
