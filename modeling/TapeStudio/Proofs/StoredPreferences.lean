import TapeStudio.Proofs.FailedClose
import TapeStudio.Proofs.Numerals
import TapeStudio.Proofs.ReadSettings

/-! Preferences that are set in a settings document are found again after it was written and
read. -/
namespace TapeStudio

namespace OptionList

variable {name value : Text} {options : OptionList}

theorem set_set (name value other : Text) (options : OptionList) :
    set name other (set name value options) = set name other options := by
  fun_induction set name value options with
  | case1 => simp [set]
  | case2 => simp [set]
  | case3 option old rest hne ih => simp [set, hne, ih]

theorem mem_of_mem_set {o : Text × Text} (h : o ∈ set name value options) :
    o = (name, value) ∨ o ∈ options := by
  fun_induction set name value options with
  | case1 => simpa using h
  | case2 old rest =>
    rcases List.mem_cons.mp h with rfl | h
    · exact .inl rfl
    · exact .inr (List.mem_cons_of_mem _ h)
  | case3 option old rest hne ih =>
    rcases List.mem_cons.mp h with rfl | h
    · exact .inr (List.mem_cons_self ..)
    · exact (ih h).imp_right (List.mem_cons_of_mem _)

theorem nodup_set (h : (options.map (·.1)).Nodup) :
    ((set name value options).map (·.1)).Nodup := by
  fun_induction set name value options with
  | case1 => simp
  | case2 old rest => exact h
  | case3 option old rest hne ih =>
    obtain ⟨hnew, hrest⟩ := List.nodup_cons.mp h
    refine List.nodup_cons.mpr ⟨fun hmem => ?_, ih hrest⟩
    obtain ⟨o, ho, hoption⟩ := List.mem_map.mp hmem
    rcases mem_of_mem_set ho with rfl | ho
    · exact hne hoption.symm
    · exact hnew (hoption ▸ List.mem_map_of_mem ho)

end OptionList

namespace Settings

variable {name value : Text} {options : OptionList}

theorem keptOptions_set (name value : Text) (options : OptionList) :
    keptOptions (OptionList.set name value options) =
      OptionList.set name (kept value) (keptOptions options) := by
  fun_induction OptionList.set name value options with
  | case1 => rfl
  | case2 old rest => simp [keptOptions, OptionList.set]
  | case3 option old rest hne ih =>
    rw [keptOptions, List.map_cons, ← keptOptions, ih]
    simp [keptOptions, OptionList.set, hne]

/-- The name of an option that no line with it can be taken for a header. -/
structure PlainName (name : Text) : Prop extends OptionName name where
  noBracket : name.head? ≠ some '['

theorem Restorable.set (h : Restorable options) (hname : PlainName name) (hvalue : '\r' ∉ value) :
    Restorable (OptionList.set name value options) := by
  refine ⟨OptionList.nodup_set h.nodup, fun ho => ?_, fun ho => ?_, fun ho => ?_⟩
  · rcases OptionList.mem_of_mem_set ho with rfl | ho
    · exact hname.toOptionName
    · exact h.name ho
  · rcases OptionList.mem_of_mem_set ho with rfl | ho
    · exact fun hhead => absurd hhead hname.noBracket
    · exact h.unheaded ho
  · rcases OptionList.mem_of_mem_set ho with rfl | ho
    · exact hvalue
    · exact h.noReturn ho

end Settings

namespace Document

variable {d : Document} {name option value : Text}

theorem setRaw_setRaw (d : Document) (name option value other : Text) :
    (d.setRaw name option value).setRaw name option other = d.setRaw name option other := by
  unfold setRaw
  rw [List.map_map]
  congr 1
  refine List.map_congr_left fun s _ => ?_
  by_cases hs : s.name = name
  · simp [hs, OptionList.set_set]
  · simp [hs]

theorem setRaw_comm {name' : Text} (h : name ≠ name') (d : Document)
    (option value option' value' : Text) :
    (d.setRaw name option value).setRaw name' option' value' =
      (d.setRaw name' option' value').setRaw name option value := by
  unfold setRaw
  rw [List.map_map, List.map_map]
  congr 1
  refine List.map_congr_left fun s _ => ?_
  by_cases hs : s.name = name
  · simp [hs, h]
  · by_cases hs' : s.name = name' <;> simp [hs, hs', Ne.symm h]

theorem section?_setRaw (d : Document) (name option value other : Text) :
    (d.setRaw name option value).section? other = (d.section? other).map fun s =>
      if s.name = name then { s with options := OptionList.set option value s.options } else s := by
  unfold section? setRaw
  rw [List.find?_map]
  congr 2
  funext s
  by_cases hs : s.name = name <;> simp [hs]

/-- The value of an option as it is written, in the section of this name. -/
def raw? (d : Document) (name option : Text) : Option Text :=
  (d.section? name).bind fun s => d.rawIn s option

theorem raw?_setRaw (d : Document) (name option value other wanted : Text) :
    (d.setRaw name option value).raw? other wanted =
      if other = name ∧ wanted = option then (d.section? other).map fun _ => value
      else d.raw? other wanted := by
  unfold raw?
  rw [section?_setRaw]
  cases hs : d.section? other with
  | none => simp
  | some s =>
    have hname : s.name = other := by simpa using List.find?_some hs
    subst hname
    simp only [Option.map_some, Option.bind_some, rawIn]
    by_cases hother : s.name = name
    · by_cases hwanted : wanted = option <;>
        simp [hother, hwanted, OptionList.lookup_set, setRaw]
    · simp [hother, setRaw]

end Document

namespace Settings

variable {d : Document} {name option value : Text}

theorem keptDocument_setRaw (d : Document) (name option value : Text) :
    keptDocument (d.setRaw name option value) =
      (keptDocument d).setRaw name option (kept value) := by
  unfold keptDocument Document.setRaw
  rw [List.map_map, List.map_map]
  congr 1
  refine List.map_congr_left fun s _ => ?_
  by_cases hs : s.name = name
  · simp [keptSection, hs, keptOptions_set]
  · simp [keptSection, hs]

theorem WellWritten.setRaw (h : WellWritten d) (hoption : PlainName option) (hvalue : '\r' ∉ value)
    (name : Text) : WellWritten (d.setRaw name option value) := by
  have hnames : (d.setRaw name option value).sections.map (·.name) = d.sections.map (·.name) := by
    unfold Document.setRaw
    rw [List.map_map]
    refine List.map_congr_left fun s _ => ?_
    by_cases hs : s.name = name <;> simp [hs]
  refine ⟨h.defaults, hnames ▸ h.nodup, fun {s} hs => ?_, fun hs => ?_⟩
  · have hmem : s.name ∈ d.sections.map (·.name) := hnames ▸ List.mem_map_of_mem hs
    obtain ⟨s', hs', heq⟩ := List.mem_map.mp hmem
    exact heq ▸ h.named hs'
  · obtain ⟨s, hmem, rfl⟩ := List.mem_map.mp hs
    split
    · exact (h.options hmem).set hoption hvalue
    · exact h.options hmem

theorem Stable.setRaw (h : Stable d) (hoption : PlainName option) (hvalue : '\r' ∉ value)
    (hkept : Settings.kept value = value) (name : Text) : Stable (d.setRaw name option value) := by
  refine ⟨h.wellWritten.setRaw hoption hvalue name, ?_⟩
  rw [keptDocument_setRaw, h.kept, hkept]

theorem kept_of_trimmed (htrimmed : Text.Trimmed value) (hunbroken : Text.Unbroken value) :
    kept value = value := by
  rw [kept, firstLine, Text.fields_of_notMem hunbroken.1, List.headD_cons, List.tail_cons,
    keptLines, Text.trim_of_trimmed htrimmed]
  exact Text.dropEndWhile_of_getLast? htrimmed.2

theorem parts?_of_notMem (h : '%' ∉ value) : parts? value = some (value.map .char) := by
  unfold parts?
  induction value with
  | nil => rfl
  | cons c value ih =>
    rw [List.mem_cons, not_or] at h
    unfold partsFrom?
    simp [Ne.symm h.1, ih h.2]

theorem mapM_char {f : ValuePart → Option Text} (hf : ∀ c, f (.char c) = some [c]) (t : Text) :
    (t.map ValuePart.char).mapM f = some (t.map fun c => [c]) := by
  induction t with
  | nil => rfl
  | cons c t ih =>
    rw [List.map_cons, List.mapM_cons, hf, ih]
    rfl

theorem expand?_of_notMem (h : '%' ∉ value) (lookup : Text → Option Text) (depth : Nat) :
    expand? lookup (depth + 1) value = some value := by
  rw [expand?, parts?_of_notMem h]
  simp only [Option.bind_eq_bind, Option.bind_some]
  rw [mapM_char fun _ => rfl, Option.bind_some, ← List.flatMap_def, List.flatMap_singleton']
  rfl

/-- A value without a percent sign stands for itself. -/
theorem value?_of_raw? (h : d.raw? name option = some value) (hplain : '%' ∉ value) :
    value? d name option = some value := by
  obtain ⟨s, hs, hraw⟩ := Option.bind_eq_some_iff.mp h
  simp [value?, hs, hraw, maxDepth, expand?_of_notMem hplain]

end Settings

namespace Preferences

open Settings

theorem plainName_of_all {name : Text} (hne : name ≠ [])
    (hchars : (name.all fun c =>
      !Text.isBlank c && !isDelimiter c && !isComment [c] && c != '[') = true)
    (hlower : Text.lower name = name) : PlainName name := by
  have hall : ∀ c ∈ name, Text.isBlank c = false ∧ isDelimiter c = false ∧ isComment [c] = false ∧
      c ≠ '[' := by
    intro c hc
    have hcheck := List.all_eq_true.mp hchars c hc
    simpa [and_assoc] using hcheck
  have hblank : ∀ c ∈ name, Text.isBlank c = false := fun c hc => (hall c hc).1
  have hunbroken : Text.Unbroken name :=
    ⟨fun hc => absurd (hblank _ hc) (by decide), fun hc => absurd (hblank _ hc) (by decide)⟩
  have hcomment : isComment name = false := by
    cases name with
    | nil => rfl
    | cons c name => exact (hall c (List.mem_cons_self ..)).2.2.1
  exact ⟨⟨hne, Text.trimmed_of_forall hblank, fun c hc => (hall c hc).2.1, hunbroken, hcomment,
      hlower⟩,
    fun hhead => (hall _ (List.mem_of_head? hhead)).2.2.2 rfl⟩

theorem plainName_darkModeOption : PlainName darkModeOption :=
  plainName_of_all (by decide) (by decide) (by decide +kernel)

theorem plainName_azureOption : PlainName azureOption :=
  plainName_of_all (by decide) (by decide) (by decide +kernel)

theorem plainName_fileOption : PlainName fileOption :=
  plainName_of_all (by decide) (by decide) (by decide +kernel)

/-- A text that is kept as it is, whatever is done with the document. -/
structure Sturdy (t : Text) : Prop where
  noPercent : '%' ∉ t
  unbroken : Text.Unbroken t
  trimmed : Text.Trimmed t

theorem sturdy_of_forall {t : Text} (h : ∀ c ∈ t, Text.isBlank c = false ∧ c ≠ '%') : Sturdy t where
  noPercent hc := (h _ hc).2 rfl
  unbroken := ⟨fun hc => absurd (h _ hc).1 (by decide), fun hc => absurd (h _ hc).1 (by decide)⟩
  trimmed := Text.trimmed_of_forall fun c hc => (h c hc).1

theorem sturdy_ofInteger (n : Int) : Sturdy (Text.ofInteger n) := by
  refine sturdy_of_forall fun c hc => ⟨Text.isBlank_of_mem_ofInteger hc, ?_⟩
  rintro rfl
  exact Text.percent_notMem_ofInteger n hc

theorem sturdy_singleton {c : Char} (hblank : Text.isBlank c = false) (hpercent : c ≠ '%') :
    Sturdy [c] :=
  sturdy_of_forall (List.forall_mem_singleton.mpr ⟨hblank, hpercent⟩)

theorem sturdy_bit (b : Bool) : Sturdy (if b then ['1'] else ['0']) := by
  cases b with
  | false => exact sturdy_singleton (by decide) (by decide)
  | true => exact sturdy_singleton (by decide) (by decide)

/-- Settings as they occur in a session: they are restored exactly, except for the name of the
current file. -/
structure Orderly (d : Document) : Prop where
  stable : Stable (d.setRaw filesSection fileOption [])
  switches : (d.section? settingsSection).isSome = true
  files : (d.section? filesSection).isSome = true

theorem isSome_section?_setRaw {d : Document} {name option value other : Text}
    (h : (d.section? other).isSome = true) :
    ((d.setRaw name option value).section? other).isSome = true := by
  rw [Document.section?_setRaw, Option.isSome_map]
  exact h

theorem Orderly.setSwitch {d : Document} (h : Orderly d) {option value : Text}
    (hoption : PlainName option) (hvalue : Sturdy value) :
    Orderly (d.setRaw settingsSection option value) := by
  refine ⟨?_, isSome_section?_setRaw h.switches, isSome_section?_setRaw h.files⟩
  rw [Document.setRaw_comm (by decide)]
  exact h.stable.setRaw hoption hvalue.unbroken.2 (kept_of_trimmed hvalue.trimmed hvalue.unbroken) _

theorem Orderly.setAll_switchEntries {d : Document} (h : Orderly d) (p : Preferences) :
    Orderly (d.setAll p.switchEntries) :=
  (h.setSwitch plainName_darkModeOption (sturdy_ofInteger _)).setSwitch plainName_azureOption
    (sturdy_bit _)

theorem setAll_entries (d : Document) (p : Preferences) :
    d.setAll p.entries = (d.setAll p.switchEntries).setRaw filesSection fileOption p.file := rfl

theorem Orderly.setAll_entries {d : Document} (h : Orderly d) (p : Preferences) :
    Orderly (d.setAll p.entries) := by
  have hswitches := h.setAll_switchEntries p
  rw [Preferences.setAll_entries]
  refine ⟨?_, isSome_section?_setRaw hswitches.switches, isSome_section?_setRaw hswitches.files⟩
  rw [Document.setRaw_setRaw]
  exact hswitches.stable

theorem orderly_of_ofDocument? {d : Document} {p : Preferences} (h : Stable d)
    (hp : ofDocument? d = some p) : Orderly d := by
  simp only [ofDocument?, value?, Option.bind_eq_bind, Option.bind_eq_some_iff] at hp
  obtain ⟨_, ⟨s, hs, _⟩, _, _, _, _, _, _, _, ⟨s', hs', _⟩, _⟩ := hp
  refine ⟨h.setRaw plainName_fileOption (by simp) (by rfl) _, ?_, ?_⟩
  · rw [hs]
    rfl
  · rw [hs']
    rfl

theorem hasNumeral_of_ofDocument? {d : Document} {p : Preferences} (hp : ofDocument? d = some p) :
    Text.HasNumeral p.darkMode := by
  simp only [ofDocument?, Option.bind_eq_bind, Option.bind_eq_some_iff, Option.pure_def,
    Option.some.injEq] at hp
  obtain ⟨_, _, mode, hmode, _, _, _, _, _, _, rfl⟩ := hp
  exact Text.hasNumeral_of_integer? hmode

/-- What is read from the document after preferences were set and it was written. -/
theorem read?_write_setAll {d : Document} (h : Orderly d) {p : Preferences} (hp : '\r' ∉ p.file) :
    '\r' ∉ write (d.setAll p.entries) ∧
      read? (write (d.setAll p.entries)) =
        some (d.setAll { p with file := kept p.file }.entries) := by
  have hswitches := (h.setAll_switchEntries p).stable
  have hwell : WellWritten (d.setAll p.entries) := by
    have hset := hswitches.wellWritten.setRaw plainName_fileOption hp filesSection
    rw [Document.setRaw_setRaw] at hset
    exact hset
  have hkept : keptDocument (d.setAll p.entries) =
      d.setAll { p with file := kept p.file }.entries := by
    rw [setAll_entries, ← Document.setRaw_setRaw _ _ _ [], keptDocument_setRaw, hswitches.kept,
      Document.setRaw_setRaw]
    rfl
  refine ⟨return_notMem_write hwell, ?_⟩
  rw [read?_write hwell, hkept]

/-- What is found in a document after preferences were set. The two switches are found again, the
name of the file may have references in it. -/
theorem ofDocument?_setAll {d : Document} (h : Orderly d) {p : Preferences}
    (hp : Text.HasNumeral p.darkMode) :
    ofDocument? (d.setAll p.entries) =
      (value? (d.setAll p.entries) filesSection fileOption).map fun name =>
        { p with file := name } := by
  obtain ⟨s, hs⟩ := Option.isSome_iff_exists.mp h.switches
  have hfile : ¬ (settingsSection = filesSection) := by decide
  have hmode : value? (d.setAll p.entries) settingsSection darkModeOption =
      some (Text.ofInteger p.darkMode) := by
    refine value?_of_raw? ?_ (sturdy_ofInteger _).noPercent
    have hother : ¬ (darkModeOption = azureOption) := by decide
    rw [setAll_entries, Document.raw?_setRaw, if_neg (fun hsame => hfile hsame.1)]
    change ((d.setRaw settingsSection darkModeOption _).setRaw settingsSection azureOption _).raw?
      settingsSection darkModeOption = _
    rw [Document.raw?_setRaw, if_neg (fun hsame => hother hsame.2), Document.raw?_setRaw,
      if_pos ⟨rfl, rfl⟩, hs, Option.map_some]
  have hazure : value? (d.setAll p.entries) settingsSection azureOption =
      some (if p.azure then ['1'] else ['0']) := by
    refine value?_of_raw? ?_ (sturdy_bit _).noPercent
    rw [setAll_entries, Document.raw?_setRaw, if_neg (fun hsame => hfile hsame.1)]
    change ((d.setRaw settingsSection darkModeOption _).setRaw settingsSection azureOption _).raw?
      settingsSection azureOption = _
    rw [Document.raw?_setRaw, if_pos ⟨rfl, rfl⟩, Document.section?_setRaw, hs, Option.map_some,
      Option.map_some]
  have hbit : Text.integer? (if p.azure then ['1'] else ['0']) =
      some (if p.azure then 1 else 0) := by
    cases p.azure <;> decide
  have hswitch : decide ((if p.azure then (1 : Int) else 0) ≠ 0) = p.azure := by
    cases p.azure <;> decide
  rw [ofDocument?, hmode, hazure]
  simp only [Option.bind_eq_bind, Option.bind_some, Text.integer?_ofInteger hp, hbit, hswitch]
  rw [Option.map_eq_bind]
  rfl

/-- Preferences with a sturdy name are found again. -/
theorem ofDocument?_setAll_of_sturdy {d : Document} (h : Orderly d) {p : Preferences}
    (hp : Text.HasNumeral p.darkMode) (hfile : Sturdy p.file) :
    ofDocument? (d.setAll p.entries) = some p := by
  obtain ⟨s, hs⟩ := Option.isSome_iff_exists.mp (h.setAll_switchEntries p).files
  have hvalue : value? (d.setAll p.entries) filesSection fileOption = some p.file := by
    refine value?_of_raw? ?_ hfile.noPercent
    rw [setAll_entries, Document.raw?_setRaw, if_pos ⟨rfl, rfl⟩, hs, Option.map_some]
  rw [ofDocument?_setAll h hp, hvalue]
  rfl

end Preferences

end TapeStudio
