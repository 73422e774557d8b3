import TapeStudio.Proofs.InOrder
import TapeStudio.Proofs.Settled

/-! Closing that fails. The settings file is emptied before the preferences are checked, so where
the current file cannot be kept in the settings these are lost, and no session starts any more. All
other failures leave the settings file as it was. -/
namespace TapeStudio

namespace Settings

theorem dropDoubled_sublist (t : Text) : (dropDoubled t).Sublist t := by
  fun_induction dropDoubled t with
  | case1 rest ih => exact (ih.cons _).cons _
  | case2 c rest _ ih => exact ih.cons_cons c
  | case3 => exact .slnil

theorem dropReferencesFrom_sublist (skip : Nat) (t : Text) :
    (dropReferencesFrom skip t).Sublist t := by
  fun_induction dropReferencesFrom skip t with
  | case1 => exact .slnil
  | case2 skip c rest ih => exact ih.cons c
  | case3 c rest n _ ih => exact ih.cons c
  | case4 c rest _ ih => exact ih.cons_cons c

theorem strayPercent?_of_notMem {t : Text} (h : '%' ∉ t) : strayPercent? t = none := by
  unfold strayPercent? dropReferences
  rw [List.findIdx?_eq_none_iff]
  intro c hc
  have hmem := (dropDoubled_sublist t).subset ((dropReferencesFrom_sublist 0 _).subset hc)
  simp only [decide_eq_false_iff_not]
  rintro rfl
  exact h hmem

end Settings

theorem Text.percent_notMem_ofInteger (n : Int) : '%' ∉ Text.ofInteger n := by
  have hdigits : ∀ m : Nat, '%' ∉ (Nat.repr m).toList := by
    intro m hmem
    rw [Nat.repr_eq_ofList_toDigits, String.toList_ofList] at hmem
    have := Nat.isDigit_of_mem_toDigits (by decide) (by decide) hmem
    contradiction
  cases n with
  | ofNat m => exact hdigits m
  | negSucc m =>
    change '%' ∉ ("-" ++ Nat.repr (m + 1)).toList
    rw [String.toList_append, List.mem_append]
    rintro (hmem | hmem)
    · simp at hmem
    · exact hdigits (m + 1) hmem

/-- The document after these options were set, one after the other. -/
def Document.setAll (d : Document) (entries : List (Text × Text × Text)) : Document :=
  entries.foldl (fun d entry => d.setRaw entry.1 entry.2.1 entry.2.2) d

namespace FileChoice

/-- The choice can be kept in the settings. -/
def Storable (file : FileChoice) : Prop :=
  ∃ name, file = .named name ∧ Settings.strayPercent? name = none

/-- The choice is refused by the settings with this fault: its name has a stray percent sign, or
there is none. -/
def Refused (file : FileChoice) (fault : Fault) : Prop :=
  match file with
  | .named name => ∃ place, Settings.strayPercent? name = some place ∧
      fault = .strayPercent name place
  | .unnamed _ => fault = .noText

theorem not_refused {file : FileChoice} {fault : Fault}
    (hstray : ∀ value place, fault ≠ .strayPercent value place) (htext : fault ≠ .noText) :
    ¬ file.Refused fault := by
  cases file with
  | named name =>
    rintro ⟨place, _, hfault⟩
    exact hstray name place hfault
  | unnamed reply => exact htext

theorem not_refused_of_ofFiles {file : FileChoice} {fault : Fault} (h : Command.OfFiles fault) :
    ¬ file.Refused fault := by
  apply not_refused
  · rintro value place rfl
    exact h
  · rintro rfl
    exact h

end FileChoice

namespace Command

variable {s r : Session}

theorem setOptions_of_plain {entries : List (Text × Text × Text)}
    (h : ∀ entry ∈ entries, Settings.strayPercent? entry.2.2 = none) (s : Session) :
    setOptions entries s = .ok ⟨⟩ { s with settings := s.settings.setAll entries } := by
  induction entries generalizing s with
  | nil => rfl
  | cons entry rest ih =>
    obtain ⟨sectionName, option, value⟩ := entry
    have hplain := h _ (List.mem_cons_self ..)
    have hset : setOption sectionName option value s =
        .ok ⟨⟩ { s with settings := s.settings.setRaw sectionName option value } := by
      rw [setOption, hplain]
      rfl
    rw [setOptions, bind_of_ok hset]
    exact ih (fun e he => h e (List.mem_cons_of_mem _ he)) _

/-- The two switches can always be kept. -/
theorem strayPercent?_switchEntries (p : Preferences) :
    ∀ entry ∈ p.switchEntries, Settings.strayPercent? entry.2.2 = none := by
  intro entry hentry
  apply Settings.strayPercent?_of_notMem
  rcases List.mem_pair.mp hentry with rfl | rfl
  · exact Text.percent_notMem_ofInteger _
  · cases p.azure <;> decide

/-- The last part of setting the preferences, which keeps the current file. -/
def setFile (p : Preferences) : FileChoice → Command Unit
  | .named _ => setOptions p.fileEntries
  | .unnamed _ => throw .noText

theorem setFile_cases {p : Preferences} {file : FileChoice} (hp : p.file = file.name)
    (s : Session) :
    (file.Storable ∧
      setFile p file s = .ok ⟨⟩ { s with settings := s.settings.setAll p.fileEntries }) ∨
    ∃ fault, file.Refused fault ∧ setFile p file s = .error fault s := by
  cases file with
  | unnamed reply => exact .inr ⟨.noText, rfl, rfl⟩
  | named name =>
    obtain rfl : p.file = name := hp
    cases hstray : Settings.strayPercent? p.file with
    | some place =>
      refine .inr ⟨.strayPercent p.file place, ⟨place, hstray, rfl⟩, ?_⟩
      apply bind_of_error
      rw [setOption, hstray]
      rfl
    | none =>
      have hplain : ∀ entry ∈ p.fileEntries, Settings.strayPercent? entry.2.2 = none := by
        simpa [Preferences.fileEntries] using hstray
      exact .inl ⟨⟨p.file, rfl, hstray⟩, setOptions_of_plain hplain s⟩

theorem setPreferences_cases (s : Session) :
    (s.file.Storable ∧ setPreferences s =
      .ok ⟨⟩ { s with settings := s.settings.setAll s.preferences.entries }) ∨
    ∃ fault, s.file.Refused fault ∧ setPreferences s =
      .error fault { s with settings := s.settings.setAll s.preferences.switchEntries } := by
  have hswitches := setOptions_of_plain (strayPercent?_switchEntries s.preferences) s
  have hset : setPreferences s = setFile s.preferences s.file
      { s with settings := s.settings.setAll s.preferences.switchEntries } := by
    change (setOptions s.preferences.switchEntries >>= fun _ => setFile s.preferences s.file) s = _
    exact bind_of_ok hswitches
  rw [hset]
  rcases setFile_cases (p := s.preferences) rfl
      { s with settings := s.settings.setAll s.preferences.switchEntries } with
    ⟨hstorable, hfile⟩ | ⟨fault, hrefused, hfile⟩
  · exact .inl ⟨hstorable, hfile⟩
  · exact .inr ⟨fault, hrefused, hfile⟩

theorem writeSettings_of_ok {t : Text} {folder : Folder}
    (h : s.folder.writeText Session.settingsName t = .ok folder) :
    writeSettings t s = .ok ⟨⟩ { s with folder := folder } := by
  change EStateM.bind (ofFile (s.folder.writeText Session.settingsName t)) _ s = _
  rw [h]
  rfl

theorem writeSettings_of_error {t : Text} {fault : FileFault}
    (h : s.folder.writeText Session.settingsName t = .error fault) :
    writeSettings t s = .error (.file fault) s := by
  change EStateM.bind (ofFile (s.folder.writeText Session.settingsName t)) _ s = _
  rw [h]
  rfl

/-- All that storing the preferences can do. -/
theorem storePreferences_cases (s : Session) :
    (∃ fault, s.folder.writeText Session.settingsName [] = .error fault ∧
      storePreferences s = .error (.file fault) s) ∨
    (∃ fault folder, s.folder.writeText Session.settingsName [] = .ok folder ∧
      s.file.Refused fault ∧ storePreferences s = .error fault { s with
        folder := folder
        settings := s.settings.setAll s.preferences.switchEntries }) ∨
    ∃ emptied folder, s.file.Storable ∧
      s.folder.writeText Session.settingsName [] = .ok emptied ∧
      emptied.writeText Session.settingsName
        (Settings.write (s.settings.setAll s.preferences.entries)) = .ok folder ∧
      storePreferences s = .ok ⟨⟩ { s with
        folder := folder
        settings := s.settings.setAll s.preferences.entries } := by
  cases hwrite : s.folder.writeText Session.settingsName [] with
  | error fault =>
    exact .inl ⟨fault, rfl, bind_of_error (writeSettings_of_error hwrite)⟩
  | ok emptied =>
    unfold storePreferences
    rw [bind_of_ok (writeSettings_of_ok hwrite)]
    rcases setPreferences_cases { s with folder := emptied } with
      ⟨hstorable, hset⟩ | ⟨fault, hrefused, hset⟩
    · rw [bind_of_ok hset]
      obtain ⟨folder, hfolder⟩ := Folder.exists_writeText_again hwrite
        (Settings.write (s.settings.setAll s.preferences.entries))
      exact .inr (.inr ⟨emptied, folder, hstorable, rfl, hfolder, writeSettings_of_ok hfolder⟩)
    · exact .inr (.inl ⟨fault, emptied, rfl, hrefused, bind_of_error hset⟩)

end Command

namespace Session

/-- The current file is not the settings file. -/
def Apart (s : Session) : Prop :=
  ∀ name, s.file = .named name → s.folder.place? name ≠ some [settingsName]

/-- What is at the place of the settings file is still this, unless it is the current file. -/
def SettingsKept (found? : Option Entry) (s : Session) : Prop :=
  s.Apart → s.folder.find? [settingsName] = found?

/-- Nothing stands against closing, and it cannot fail. -/
structure Closable (s : Session) : Prop where
  running : s.switches.running = false
  dirty : s.dirty = false
  storable : s.file.Storable
  writable : ∃ folder, s.folder.writeText settingsName [] = .ok folder

/-- How closing fails: the settings file was emptied if the current file is refused by the settings,
and is still as it was otherwise. -/
def ClosingFailed (found? : Option Entry) (fault : Fault) (s : Session) : Prop :=
  s.Apart →
    (¬ s.file.Refused fault ∧ s.folder.find? [settingsName] = found?) ∨
    (s.file.Refused fault ∧ s.folder.find? [settingsName] = some (.file (Text.encode [])))

theorem route_nil (f : Folder) : f.route [] = .error .missing := by
  unfold Folder.route
  rw [if_neg (by decide), if_neg (by decide +kernel), if_pos (by decide)]

theorem apart_of_isNoFile {s : Session} (h : s.file.isNoFile = true) : s.Apart := by
  intro name hfile
  rw [hfile] at h
  obtain rfl : name = [] := List.isEmpty_iff.mp h
  rw [Folder.place?, route_nil]
  simp

theorem find?_of_emptied {f g : Folder} (h : f.writeText settingsName [] = .ok g) :
    g.find? [settingsName] = some (.file (Text.encode [])) := by
  obtain ⟨r, hroute, _, _, hfind⟩ :=
    Folder.readCause_eq_ok_iff.mp (Folder.readCause_of_writeText h)
  rw [route_settingsName, Except.ok.injEq] at hroute
  subst hroute
  exact hfind

end Session

namespace Command

open Session

variable {found? : Option Entry}

theorem settingsKept_saveNamed : Preserves (SettingsKept found?) saveNamed := by
  intro s hs
  cases hfile : s.file with
  | unnamed reply =>
    rw [saveNamed_of_unnamed hfile]
    exact hs
  | named name =>
    rw [saveNamed_of_named hfile]
    cases hwrite : s.folder.writeText name s.editor.whole with
    | error fault => exact hs
    | ok folder =>
      intro hapart
      obtain ⟨p, hp⟩ := Folder.exists_place?_of_writeText hwrite
      have hne : s.folder.place? name ≠ some [settingsName] := by
        rw [hp, ← Folder.place?_of_writeText hwrite hp]
        exact hapart name hfile
      have hkept : s.folder.find? [settingsName] = found? := by
        apply hs
        intro other hother
        obtain rfl : name = other := FileChoice.named.inj (hfile.symm.trans hother)
        exact hne
      exact (Folder.find?_of_writeText_of_ne hwrite hne).trans hkept

theorem settingsKept_showFile : Preserves (SettingsKept found?) showFile :=
  preserves_showFile fun _ _ _ _ _ _ hs => hs

/-- A file is chosen while there is none, so what was at the place of the settings file is there
until the text is saved. -/
theorem meets_saveAs_settingsKept :
    Meets (fun s => s.folder.find? [settingsName] = found?) saveAs (fun _ => SettingsKept found?)
      fun _ => SettingsKept found? := by
  have hask : Meets (fun s => s.folder.find? [settingsName] = found?) (askFile .saveAs)
      (fun _ s => s.folder.find? [settingsName] = found?) fun _ => SettingsKept found? := by
    have hkeeps : Preserves (fun s => s.folder.find? [settingsName] = found?) (askFile .saveAs) :=
      preserves_askFile (fun _ _ hs => hs) fun _ _ hs => hs
    exact hkeeps.weaken (fun _ hs => hs) (fun _ _ hs => hs) fun _ _ hs _ => hs
  apply hask.bind
  intro file?
  cases file? with
  | none => exact meets_pure fun _ hs _ => hs
  | some file =>
    refine Meets.bind (R := fun _ => SettingsKept found?) (meets_modify ?_) fun _ =>
      settingsKept_saveNamed.bind fun _ => settingsKept_showFile
    exact fun _ hs _ => hs

theorem settingsKept_save : Preserves (SettingsKept found?) save := by
  apply meets_get_bind
  intro s hs
  split
  next hnone =>
    refine Meets.bind (R := fun _ => SettingsKept found?) ?_ fun _ => meets_modify fun _ hs => hs
    refine meets_saveAs_settingsKept.weaken ?_ (fun _ _ hs => hs) fun _ _ hs => hs
    rintro _ rfl
    exact hs (apart_of_isNoFile hnone)
  · refine settingsKept_saveNamed.weaken ?_ (fun _ _ hs => hs) fun _ _ hs => hs
    rintro _ rfl
    exact hs

theorem meets_storePreferences {s : Session} (hs : SettingsKept found? s ∨ s.Closable)
    (hrunning : s.switches.running = false) (hdirty : s.dirty = false) :
    Meets (fun r => r = s) storePreferences (fun _ => Closable) (ClosingFailed found?) := by
  intro r hr
  rw [hr]
  rcases storePreferences_cases s with ⟨fault, hwrite, hstore⟩ |
    ⟨fault, folder, hwrite, hrefused, hstore⟩ |
    ⟨emptied, folder, hstorable, hwrite, hfolder, hstore⟩
  · rw [hstore]
    rcases hs with hs | hs
    · exact fun hapart => .inl ⟨FileChoice.not_refused_of_ofFiles trivial, hs hapart⟩
    · obtain ⟨g, hg⟩ := hs.writable
      rw [hg] at hwrite
      contradiction
  · rw [hstore]
    exact fun _ => .inr ⟨hrefused, find?_of_emptied hwrite⟩
  · rw [hstore]
    exact ⟨hrunning, hdirty, hstorable, Folder.exists_writeText_again hfolder []⟩

theorem meets_finishClosing :
    Meets (fun s => SettingsKept found? s ∨ s.Closable) finishClosing
      (fun _ s => SettingsKept found? s ∨ s.Closable) (ClosingFailed found?) := by
  apply meets_get_bind
  intro s hs
  split
  next hclean =>
    simp only [Bool.and_eq_true, Bool.not_eq_true'] at hclean
    refine (meets_storePreferences hs hclean.1 hclean.2).bind fun _ => meets_modify ?_
    intro r hr
    exact .inr ⟨hr.running, hr.dirty, hr.storable, hr.writable⟩
  · apply meets_pure
    rintro _ rfl
    exact hs

theorem meets_offerStop_settingsKept {again : Command Unit}
    (hagain : Meets (SettingsKept found?) again (fun _ s => SettingsKept found? s ∨ s.Closable)
      (ClosingFailed found?)) :
    Meets (SettingsKept found?) (offerStop again)
      (fun _ s => SettingsKept found? s ∨ s.Closable) (ClosingFailed found?) := by
  apply Meets.get_bind
  intro s _
  split
  · refine Meets.bind (meets_ask_of_keeps (fun _ _ hs => hs) fun _ _ hs => hs) fun reply => ?_
    split
    · exact Meets.bind (R := fun _ => SettingsKept found?) (meets_modify fun _ hs => hs) fun _ =>
        hagain
    · exact meets_pure fun _ hs => .inl hs
  · exact meets_pure fun _ hs => .inl hs

theorem meets_offerSave_settingsKept {again : Command Unit}
    (hagain : Meets (SettingsKept found?) again (fun _ s => SettingsKept found? s ∨ s.Closable)
      (ClosingFailed found?)) :
    Meets (fun s => SettingsKept found? s ∨ s.Closable) (offerSave again)
      (fun _ s => SettingsKept found? s ∨ s.Closable) (ClosingFailed found?) := by
  have hsave : Meets (SettingsKept found?) save (fun _ => SettingsKept found?)
      (ClosingFailed found?) := by
    refine (settingsKept_save.meets failsWith_save).weaken (fun _ hs => hs) (fun _ _ hs => hs) ?_
    exact fun fault s hs hapart => .inl ⟨FileChoice.not_refused_of_ofFiles hs.1, hs.2 hapart⟩
  have hclean : Meets (SettingsKept found?) (modify ({ · with dirty := false }))
      (fun _ => SettingsKept found?) (ClosingFailed found?) := meets_modify fun _ hs => hs
  apply meets_get_bind
  intro s hs
  cases hdirty : s.dirty with
  | false =>
    apply meets_pure
    rintro _ rfl
    exact hs
  | true =>
    have hkept : SettingsKept found? s := by
      rcases hs with hs | hs
      · exact hs
      · exact absurd (hs.dirty.symm.trans hdirty) (by decide)
    have hask : Meets (fun r => r = s) (ask .saveChanges) (fun _ => SettingsKept found?)
        (ClosingFailed found?) := by
      refine (meets_ask_of_keeps (fun _ _ hs => hs) fun _ _ hs => hs).weaken ?_
        (fun _ _ hs => hs) fun _ _ hs => hs
      rintro _ rfl
      exact hkept
    apply hask.bind
    intro reply
    split
    · exact hclean.bind fun _ => hsave.bind fun _ => hagain
    · split
      · exact hclean.bind fun _ => hagain
      · exact meets_pure fun _ hs => .inl hs

theorem meets_closeWithin_settingsKept (turns : Nat) :
    Meets (SettingsKept found?) (closeWithin turns) (fun _ s => SettingsKept found? s ∨ s.Closable)
      (ClosingFailed found?) := by
  induction turns with
  | zero =>
    intro s hs hapart
    exact .inl ⟨FileChoice.not_refused (by simp) (by simp), hs hapart⟩
  | succ turns ih =>
    exact (meets_offerStop_settingsKept ih).bind fun _ =>
      (meets_offerSave_settingsKept ih).bind fun _ => meets_finishClosing

/-- No session starts where the settings file is empty. -/
theorem start_of_emptied {s : Session}
    (h : s.folder.find? [settingsName] = some (.file (Text.encode []))) :
    ∃ fault, start s = .error fault s ∧
      (ImagesShown s.toolkit s.folder → fault = .badSettings) := by
  have hread : s.folder.readText settingsName = .ok [] :=
    Folder.readText_eq_ok_iff.mpr ⟨_, Folder.readCause_eq_ok_iff.mpr ⟨⟨[], settingsName⟩,
      route_settingsName _, by decide +kernel, by decide, h⟩, Text.decode?_encode []⟩
  have hsettings : settingsIn? s.folder = some .empty := by
    rw [settingsIn?, hread]
    decide
  have hprefs : Preferences.ofDocument? .empty = none := by decide
  have hload : loadPreferences s = .error .badSettings s := by
    dsimp only [loadPreferences, bind, EStateM.bind, get, getThe, MonadStateOf.get, EStateM.get]
    rw [hsettings, Option.bind_some, hprefs]
    rfl
  by_cases himages : ImagesShown s.toolkit s.folder
  · exact ⟨_, (bind_of_ok (loadImages_of_shown himages)).trans (bind_of_error hload), fun _ => rfl⟩
  · obtain ⟨message, hmessage⟩ := loadImages_of_not_shown himages
    exact ⟨_, bind_of_error hmessage, fun h => absurd h himages⟩

end Command

/-- Closing fails in a session whose current file is not the settings file. If the settings refuse
the current file, they were emptied, and no session can be started in the folder any more: if the
images can be shown, it is the settings that are found bad. Otherwise the settings file is as it
was. -/
theorem settings_after_failed_close {s r : Session} {fault : Fault}
    (hfailed : Command.close s = .error fault r) (hapart : r.Apart) :
    (¬ r.file.Refused fault ∧
      r.folder.find? [Session.settingsName] = s.folder.find? [Session.settingsName]) ∨
    (r.file.Refused fault ∧
      r.folder.find? [Session.settingsName] = some (.file (Text.encode [])) ∧
      ∀ later : Session, later.folder = r.folder →
        ∃ fault, Command.start later = .error fault later ∧
          (Session.ImagesShown later.toolkit later.folder → fault = .badSettings)) := by
  have hkept : Session.SettingsKept (s.folder.find? [Session.settingsName]) s := fun _ => rfl
  have hclose := Command.meets_closeWithin_settingsKept (s.script.replies.length + 1) s hkept
  change Command.closeWithin (s.script.replies.length + 1) s = _ at hfailed
  rw [hfailed] at hclose
  rcases hclose hapart with ⟨hrefused, hkept⟩ | ⟨hrefused, hemptied⟩
  · exact .inl ⟨hrefused, hkept⟩
  · refine .inr ⟨hrefused, hemptied, ?_⟩
    intro later hfolder
    apply Command.start_of_emptied
    rw [hfolder, hemptied]

/-- A percent sign is the name of the current file. -/
theorem settings_after_failed_close_percent :
    let folder := Folder.ofFiles [(Session.settingsName, Text.encode ['#'])]
    let s := { Session.initial folder .silent with file := .named ['%'] }
    let r := Command.after Command.close s
    r.folder.find? [Session.settingsName] = some (.file (Text.encode [])) ∧
      Command.start (.initial r.folder .silent) =
        .error .badSettings (.initial r.folder .silent) := by
  intro folder s r
  have hfile : r.file = .named ['%'] := FileChoice.eq_named_of_hasName (by decide +kernel)
  obtain ⟨fault, hfailed⟩ : ∃ fault, Command.close s = .error fault r :=
    Command.exists_eq_error_of_succeeds (by decide +kernel)
  have hapart : r.Apart := by
    intro name hname
    obtain rfl : ['%'] = name := FileChoice.named.inj (hfile.symm.trans hname)
    decide +kernel
  have hchanged : r.folder.readCause Session.settingsName ≠
      s.folder.readCause Session.settingsName := by
    decide +kernel
  rcases settings_after_failed_close hfailed hapart with ⟨_, hkept⟩ | ⟨_, hemptied, hstart⟩
  · have hsame := Folder.readCause_congr (Session.route_settingsName s.folder)
      (Session.route_settingsName r.folder) hkept
    exact absurd hsame hchanged
  · obtain ⟨fault', hstart, hcause⟩ := hstart (.initial r.folder .silent) rfl
    rw [hcause fun _ _ => rfl] at hstart
    exact ⟨hemptied, hstart⟩

/-- So the settings can be lost in a session that was just started. -/
theorem settings_lost :
    let folder := Folder.sample ['%', '%'] []
    let s := Session.startedIn folder
    let r := Command.after Command.close s
    s.Reached ∧ s.switches.running = false ∧ s.file = .named ['%'] ∧ r.Apart ∧
      (∃ fault, Command.close s = .error fault r) ∧
      s.folder.readCause Session.settingsName =
        .ok (Text.encode (Folder.sampleSettings ['%', '%'])) ∧
      r.folder.readCause Session.settingsName = .ok (Text.encode []) := by
  intro folder s r
  have hfacts : Command.succeeds Command.start (.initial folder .silent) = true ∧
      Command.succeeds Command.close s = false ∧
      s.switches.running = false ∧
      s.file.hasName ['%'] = true ∧ r.file.hasName ['%'] = true ∧
      r.folder.place? ['%'] ≠ some [Session.settingsName] ∧
      s.folder.readCause Session.settingsName =
        .ok (Text.encode (Folder.sampleSettings ['%', '%'])) ∧
      r.folder.readCause Session.settingsName = .ok (Text.encode []) := by
    decide +kernel
  obtain ⟨hok, herror, hrunning, hsname, hrname, hplace, hbefore, hafter⟩ := hfacts
  have hrfile : r.file = .named ['%'] := FileChoice.eq_named_of_hasName hrname
  have hapart : r.Apart := by
    intro name hname
    obtain rfl : ['%'] = name := FileChoice.named.inj (hrfile.symm.trans hname)
    exact hplace
  exact ⟨Session.reached_startedIn hok, hrunning, FileChoice.eq_named_of_hasName hsname, hapart,
    Command.exists_eq_error_of_succeeds herror, hbefore, hafter⟩

end TapeStudio
