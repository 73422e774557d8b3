import TapeStudio.Proofs.StoredPreferences

/-! The preferences of a session outlast it: what is stored when it is closed is loaded by the next
one. -/
namespace TapeStudio

namespace Session

/-- The settings and the modes can be stored and loaded again. -/
def Consistent (s : Session) : Prop :=
  Preferences.Orderly s.settings ∧ ∀ mode ∈ s.modes, Text.HasNumeral mode

variable {s s' : Session}

theorem Consistent.of_looksOnly (h : s.Consistent) (hl : LooksOnly s s') : s'.Consistent := by
  refine ⟨hl.settings ▸ h.1, fun mode hmode => ?_⟩
  have hnew := hl.modes hmode
  simp only [List.mem_cons] at hnew
  rcases hnew with rfl | rfl | hold
  · exact Nat.pow_pos (by decide)
  · exact Nat.one_lt_pow (by decide) (by decide)
  · exact h.2 mode hold

theorem Consistent.of_filesOnly (h : s.Consistent) (hf : FilesOnly s s') : s'.Consistent := by
  unfold Consistent modes
  rw [hf.settings, hf.darkMode, hf.controls]
  exact h

/-- The session with a settings document, and with the preferences from it. -/
def load (s : Session) (d : Document) (p : Preferences) : Session :=
  { s with
    settings := d
    darkMode := p.darkMode
    azure := p.azure && s.hasThemeFolder
    file := .named p.file }

theorem durable_consistent : Durable Consistent where
  detached _ _ _ _ _ _ _ _ h := h
  switches _ _ h := h
  endings _ _ h := h
  looks _ _ := Consistent.of_looksOnly
  type s backspaces t h := h.of_filesOnly ((FilesOnly.refl s).typeInEditor backspaces t true)
  save := .of_frame FilesOnly.refl (fun _ => Command.filesOnly_save) fun _ _ => .of_filesOnly
  saveAs := .of_frame FilesOnly.refl (fun _ => Command.filesOnly_saveAs) fun _ _ => .of_filesOnly
  newFile := .of_frame FilesOnly.refl (fun _ => Command.filesOnly_newFile) fun _ _ => .of_filesOnly
  openFile := .of_frame FilesOnly.refl (fun _ => Command.filesOnly_openFile) fun _ _ =>
    .of_filesOnly

end Session

namespace Command

open Session

variable {s : Session}

/-- Storing the preferences keeps what holds of the settings, whether it fails or not. -/
theorem orderly_storePreferences {I : Session → Prop}
    (h : ∀ s folder settings, I s → Preferences.Orderly settings →
      I { s with folder := folder, settings := settings })
    (hsettings : ∀ s, I s → Preferences.Orderly s.settings) : Preserves I storePreferences := by
  intro s hs
  have horderly := hsettings s hs
  rcases storePreferences_cases s with ⟨fault, -, hstore⟩ | ⟨fault, folder, -, -, hstore⟩ |
    ⟨emptied, folder, -, -, -, hstore⟩
  · rw [hstore]
    exact hs
  · rw [hstore]
    exact h s folder _ hs (horderly.setAll_switchEntries _)
  · rw [hstore]
    exact h s folder _ hs (horderly.setAll_entries _)

theorem consistent_close : Preserves Consistent close := by
  have hask : ∀ question, Preserves Consistent (ask question) := fun question =>
    preserves_ask (fun _ _ h => h) fun _ _ h => h
  have hstore : Preserves Consistent storePreferences :=
    orderly_storePreferences (fun _ _ _ h hsettings => ⟨hsettings, h.2⟩) fun _ h => h.1
  have hfinish : Preserves Consistent finishClosing := by
    apply preserves_get_bind
    intro s _
    split
    · exact hstore.bind fun _ => preserves_modify fun _ h => h
    · exact preserves_pure _
  apply preserves_close
  intro again hagain
  have hstop : Preserves Consistent (offerStop again) :=
    preserves_offerStop (hask _) (fun _ h => h) hagain
  have hsave : Preserves Consistent (offerSave again) :=
    preserves_offerSave (hask _) (fun _ h => h) durable_consistent.save hagain
  exact hstop.bind fun _ => hsave.bind fun _ => hfinish

theorem consistent_act (fuel : Nat) (action : Action) : Preserves Consistent (act fuel action) :=
  durable_consistent.lasting.upheld.act (fun _ _ h => h) (fun _ _ h => h)
    (fun s backspaces t released h =>
      h.of_filesOnly ((FilesOnly.refl s).typeInEditor backspaces t released))
    (fun _ h => h) consistent_close fuel action

theorem stable_of_settingsIn? {folder : Folder} {d : Document} (h : settingsIn? folder = some d) :
    Settings.Stable d := by
  unfold settingsIn? at h
  split at h
  next t hread => exact Settings.stable_of_read? (Folder.return_notMem_of_readText hread) h
  · split at h
    · contradiction
    · obtain rfl := Option.some.inj h
      have hempty : Settings.read? [] = some .empty := rfl
      exact Settings.stable_of_read? (by simp) hempty

/-- All that loading the preferences can do. -/
theorem loadPreferences_eq (s : Session) :
    loadPreferences s = match (settingsIn? s.folder).bind fun d =>
        (Preferences.ofDocument? d).map fun p => (d, p) with
      | none => .error .badSettings s
      | some (d, p) => .ok ⟨⟩ (s.load d p) := by
  dsimp only [loadPreferences, bind, EStateM.bind, get, getThe, MonadStateOf.get, EStateM.get]
  cases settingsIn? s.folder with
  | none => rfl
  | some d =>
    rw [Option.bind_some, Option.bind_some]
    cases Preferences.ofDocument? d <;> rfl

theorem loadPreferences_of_eq {d : Document} {p : Preferences} (hd : settingsIn? s.folder = some d)
    (hp : Preferences.ofDocument? d = some p) :
    loadPreferences s = .ok ⟨⟩ (s.load d p) := by
  rw [loadPreferences_eq, hd, Option.bind_some, hp]
  rfl

theorem loadPreferences_of_none
    (h : (settingsIn? s.folder).bind Preferences.ofDocument? = none) :
    loadPreferences s = .error .badSettings s := by
  rw [loadPreferences_eq]
  cases hd : settingsIn? s.folder with
  | none => rfl
  | some d =>
    rw [hd, Option.bind_some] at h
    rw [Option.bind_some, h]
    rfl

theorem consistent_start :
    Meets (fun s => s.controls = []) start (fun _ => Consistent) fun _ _ => True := by
  have hload : Meets (fun s => s.controls = []) loadPreferences (fun _ => Consistent)
      fun _ _ => True := by
    intro s hs
    rw [loadPreferences_eq]
    cases hd : settingsIn? s.folder with
    | none => trivial
    | some d =>
      rw [Option.bind_some]
      cases hp : Preferences.ofDocument? d with
      | none => trivial
      | some p =>
        refine ⟨Preferences.orderly_of_ofDocument? (stable_of_settingsIn? hd) hp, ?_⟩
        intro mode hmode
        rcases mem_modes.mp hmode with rfl | ⟨c, hc, -⟩
        · exact Preferences.hasNumeral_of_ofDocument? hp
        · change c ∈ s.controls at hc
          rw [hs] at hc
          contradiction
  have himages : Meets (fun s => s.controls = []) loadImages (fun _ s => s.controls = [])
      fun _ _ => True :=
    (preserves_loadImages _).weaken (fun _ h => h) (fun _ _ h => h) fun _ _ _ => trivial
  have hkeep {c : Command Unit} (hc : Preserves Consistent c) :
      Meets Consistent c (fun _ => Consistent) fun _ _ => True :=
    hc.weaken (fun _ h => h) (fun _ _ h => h) fun _ _ _ => trivial
  have happearance : Preserves Consistent changeAppearance :=
    .of_frame LooksOnly.refl (fun _ => preserves_changeAppearance) durable_consistent.looks
  have hshow : Preserves Consistent showFile :=
    .of_frame FilesOnly.refl (fun _ => filesOnly_showFile) fun _ _ => .of_filesOnly
  exact himages.bind fun _ => hload.bind fun _ => (hkeep happearance).bind fun _ =>
    (hkeep hshow).bind fun _ => (hkeep durable_consistent.save).bind fun _ =>
      hkeep (preserves_modify fun _ h => h)

end Command

theorem Session.Reached.consistent {s : Session} (h : s.Reached) : s.Consistent := by
  obtain ⟨folder, script, highlighter, toolkit, s₀, hstart, hreach⟩ := h
  have h₀ := Command.consistent_start { Session.initial folder script with
    highlighter := highlighter, toolkit := toolkit } rfl
  rw [hstart] at h₀
  apply hreach.invariant h₀
  intro r fuel action script hr _
  exact (Command.consistent_act fuel action).after (s := r.beginAction script) hr

namespace FileChoice

theorem Storable.not_refused {file : FileChoice} (h : file.Storable) (fault : Fault) :
    ¬ file.Refused fault := by
  obtain ⟨name, rfl, hplain⟩ := h
  rintro ⟨place, hstray, -⟩
  rw [hplain] at hstray
  contradiction

end FileChoice

namespace Session

/-- The window was destroyed during the last action. -/
def Destroyed (s : Session) : Prop := ∃ first, .destroyed first ∈ s.journal.events

def isDestroyed (s : Session) : Bool :=
  s.journal.events.any fun event =>
    match event with
    | .destroyed _ => true
    | _ => false

theorem destroyed_of_isDestroyed {s : Session} (h : s.isDestroyed = true) : s.Destroyed := by
  obtain ⟨event, hevent, hkind⟩ := List.any_eq_true.mp h
  cases event with
  | destroyed first => exact ⟨first, hevent⟩
  | _ => contradiction

/-- The settings file holds the settings, and these hold the preferences. -/
structure Persisted (s : Session) : Prop where
  running : s.switches.running = false
  dirty : s.dirty = false
  storable : s.file.Storable
  settings : ∃ d, Preferences.Orderly d ∧ s.settings = d.setAll s.preferences.entries
  stored : ∃ f : Folder, f.writeText settingsName (Settings.write s.settings) = .ok s.folder

/-- The preferences are stored if the window is gone. -/
def Secured (s : Session) : Prop :=
  Preferences.Orderly s.settings ∧ (s.Destroyed → s.Persisted)

/-- The window is still there. -/
def Unsecured (s : Session) : Prop := Preferences.Orderly s.settings ∧ ¬ s.Destroyed

variable {s : Session}

theorem Unsecured.secured (h : s.Unsecured) : s.Secured := ⟨h.1, fun hd => absurd hd h.2⟩

theorem Destroyed.of_asked {question : Question} {reply : Value}
    (h : (s.log [.questionAsked question reply]).Destroyed) : s.Destroyed := by
  obtain ⟨first, hfirst⟩ := h
  refine ⟨first, ?_⟩
  simpa [Session.log] using hfirst

theorem Unsecured.of_filesOnly {s' : Session} (h : s.Unsecured) (hf : FilesOnly s s') :
    s'.Unsecured := by
  refine ⟨hf.settings ▸ h.1, ?_⟩
  rintro ⟨first, hfirst⟩
  exact h.2 ⟨first, hf.destroyed first hfirst⟩

end Session

namespace Command

open Session

variable {s r : Session}

theorem secured_storePreferences (hs : s.Secured) (hrunning : s.switches.running = false)
    (hdirty : s.dirty = false) :
    Meets (fun r => r = s) storePreferences (fun _ => Persisted) fun _ => Secured := by
  intro r hr
  rw [hr]
  rcases storePreferences_cases s with ⟨fault, -, hstore⟩ | ⟨fault, folder, -, hrefused, hstore⟩ |
    ⟨emptied, folder, hstorable, -, hfolder, hstore⟩
  · rw [hstore]
    exact hs
  · rw [hstore]
    refine ⟨hs.1.setAll_switchEntries _, fun hd => ?_⟩
    exact absurd hrefused ((hs.2 hd).storable.not_refused fault)
  · rw [hstore]
    exact ⟨hrunning, hdirty, hstorable, ⟨s.settings, hs.1, rfl⟩, emptied, hfolder⟩

theorem secured_finishClosing : Preserves Secured finishClosing := by
  apply meets_get_bind
  intro s hs
  split
  next hclean =>
    simp only [Bool.and_eq_true, Bool.not_eq_true'] at hclean
    refine (secured_storePreferences hs hclean.1 hclean.2).bind fun _ => meets_modify ?_
    intro r hr
    obtain ⟨d, horderly, hsettings⟩ := hr.settings
    refine ⟨?_, fun _ => { hr with }⟩
    change Preferences.Orderly r.settings
    rw [hsettings]
    exact horderly.setAll_entries _
  · apply meets_pure
    rintro _ rfl
    exact hs

theorem secured_close : Preserves Secured close := by
  have hkeep {s : Session} {script : Script} (h : s.Secured) :
      { s with script := script }.Secured :=
    ⟨h.1, fun hd => { h.2 hd with }⟩
  have hask : ∀ question, Preserves Secured (ask question) := fun question =>
    preserves_ask (fun _ _ h => hkeep h) fun _ _ h => ⟨h.1, fun hd => { h.2 hd.of_asked with }⟩
  have hask' : Preserves Unsecured (ask .saveChanges) :=
    preserves_ask (fun _ _ h => h) fun _ _ h => ⟨h.1, fun hd => h.2 hd.of_asked⟩
  apply preserves_close
  intro again hagain
  have hstop : Preserves Secured (offerStop again) :=
    preserves_offerStop (hask _) (fun _ h => ⟨h.1, fun hd => { h.2 hd with }⟩) hagain
  have hsave : Preserves Secured (offerSave again) := by
    apply preserves_offerSave_of_dirty (K := Unsecured)
    · intro s hs hdirty
      refine ⟨hs.1, fun hd => ?_⟩
      rw [(hs.2 hd).dirty] at hdirty
      contradiction
    · exact hask'
    · exact fun _ h => h
    · exact .of_frame FilesOnly.refl (fun _ => filesOnly_save) fun _ _ => .of_filesOnly
    · exact fun _ => Unsecured.secured
    · exact hagain
  exact hstop.bind fun _ => hsave.bind fun _ => secured_finishClosing

/-- Closing that has destroyed the window has stored the preferences. -/
theorem persisted_of_close {answers : Script} (hs : Preferences.Orderly s.settings)
    (hclose : close (s.beginAction answers) = .ok ⟨⟩ r) (hdestroyed : r.Destroyed) :
    r.Persisted := by
  have hbegin : (s.beginAction answers).Secured :=
    Unsecured.secured ⟨hs, fun ⟨first, hfirst⟩ => by simp [beginAction, Journal.empty] at hfirst⟩
  have hr := secured_close _ hbegin
  rw [hclose] at hr
  exact hr.2 hdestroyed

theorem offerStop_of_idle (hrunning : s.switches.running = false) (again : Command Unit) :
    offerStop again s = .ok ⟨⟩ s := by
  change (if s.switches.running then _ else pure () : Command Unit) s = _
  rw [hrunning]
  rfl

theorem closeTurn_of_idle (hrunning : s.switches.running = false) (again : Command Unit) :
    closeTurn again s = (offerSave again >>= fun _ => finishClosing) s :=
  bind_of_ok (offerStop_of_idle hrunning again)

/-- Where nothing stands against closing, there are no questions. -/
theorem closeTurn_of_clean (hrunning : s.switches.running = false) (hdirty : s.dirty = false)
    (again : Command Unit) : closeTurn again s = finishClosing s := by
  have hsave : offerSave again s = .ok ⟨⟩ s := by
    change (if s.dirty then _ else pure () : Command Unit) s = _
    rw [hdirty]
    rfl
  rw [closeTurn_of_idle hrunning, bind_of_ok hsave]

theorem close_of_clean (hrunning : s.switches.running = false) (hdirty : s.dirty = false) :
    close s = finishClosing s :=
  closeTurn_of_clean hrunning hdirty _

theorem storePreferences_of_storable (hstorable : s.file.Storable)
    (hwritable : ∃ folder, s.folder.writeText settingsName [] = .ok folder) : ∃ emptied folder,
    s.folder.writeText settingsName [] = .ok emptied ∧
      emptied.writeText settingsName (Settings.write (s.settings.setAll s.preferences.entries)) =
        .ok folder ∧
      storePreferences s = .ok ⟨⟩ { s with
        folder := folder
        settings := s.settings.setAll s.preferences.entries } := by
  obtain ⟨g, hg⟩ := hwritable
  rcases storePreferences_cases s with ⟨fault, hwrite, -⟩ | ⟨fault, folder, -, hrefused, -⟩ |
    ⟨emptied, folder, -, hemptied, hfolder, hstore⟩
  · rw [hg] at hwrite
    contradiction
  · exact absurd hrefused (hstorable.not_refused fault)
  · exact ⟨emptied, folder, hemptied, hfolder, hstore⟩

/-- The last part of closing writes the settings and destroys the window. -/
theorem finishClosing_of_closable (h : s.Closable) : ∃ emptied folder,
    s.folder.writeText settingsName [] = .ok emptied ∧
      emptied.writeText settingsName (Settings.write (s.settings.setAll s.preferences.entries)) =
        .ok folder ∧
      finishClosing s = .ok ⟨⟩ { s with
        folder := folder
        settings := s.settings.setAll s.preferences.entries }.destroyWindow := by
  have hfinish : finishClosing s = (storePreferences >>= fun _ => modify (·.destroyWindow)) s := by
    change (if !s.switches.running && !s.dirty then _ else pure () : Command Unit) s = _
    rw [h.running, h.dirty]
    rfl
  obtain ⟨emptied, folder, hemptied, hfolder, hstore⟩ :=
    storePreferences_of_storable h.storable h.writable
  rw [hfinish, bind_of_ok hstore]
  exact ⟨emptied, folder, hemptied, hfolder, rfl⟩

theorem exists_close (hrunning : s.switches.running = false) (hdirty : s.dirty = false)
    (hstorable : s.file.Storable)
    (hwritable : ∃ folder, s.folder.writeText settingsName [] = .ok folder) :
    ∃ r, close s = .ok ⟨⟩ r ∧ r.Destroyed ∧ r.file = s.file := by
  obtain ⟨emptied, folder, -, -, hfinish⟩ :=
    finishClosing_of_closable ⟨hrunning, hdirty, hstorable, hwritable⟩
  rw [close_of_clean hrunning hdirty, hfinish]
  refine ⟨_, rfl, ⟨s.windowOpen, ?_⟩, rfl⟩
  exact List.mem_append_right _ (List.mem_singleton_self _)

/-- Closing changes neither the mode nor the use of themes. -/
theorem switches_of_close (hclose : close s = .ok ⟨⟩ r) :
    r.darkMode = s.darkMode ∧ r.azure = s.azure := by
  let I (r : Session) : Prop := r.darkMode = s.darkMode ∧ r.azure = s.azure
  have hask : ∀ question, Preserves I (ask question) := fun question =>
    preserves_ask (fun _ _ h => h) fun _ _ h => h
  have hkeep : Preserves I close := by
    apply preserves_close
    intro again hagain
    have hstop : Preserves I (offerStop again) := preserves_offerStop (hask _) (fun _ h => h) hagain
    have hsave : Preserves I save :=
      .of_frame FilesOnly.refl (fun _ => filesOnly_save) fun _ _ h hf =>
        ⟨hf.darkMode.trans h.1, hf.azure.trans h.2⟩
    exact hstop.bind fun _ =>
      (preserves_offerSave (hask _) (fun _ h => h) hsave hagain).bind fun _ =>
        preserves_finishClosing (fun _ _ _ h _ => h) (fun _ _ h => h) fun _ h _ _ => h
  have hr := hkeep s ⟨rfl, rfl⟩
  rw [hclose] at hr
  exact hr

end Command

namespace Session.Persisted

open Command

variable {r : Session}

theorem settingsIn?_eq (h : r.Persisted) :
    settingsIn? r.folder = Settings.read? (Text.unifyNewlines (Settings.write r.settings)) := by
  obtain ⟨f, hwrite⟩ := h.stored
  rw [settingsIn?, Folder.readText_of_writeText hwrite]

/-- With a sturdy name for the current file, the settings and the preferences are found again. -/
theorem settingsIn?_of_sturdy (h : r.Persisted) (hname : Preferences.Sturdy r.preferences.file) :
    settingsIn? r.folder = some r.settings := by
  obtain ⟨d, horderly, hsettings⟩ := h.settings
  obtain ⟨hwrite, hread⟩ := Preferences.read?_write_setAll horderly hname.unbroken.2
  rw [Settings.kept_of_trimmed hname.trimmed hname.unbroken] at hread
  rw [h.settingsIn?_eq, hsettings, Text.unifyNewlines_of_notMem hwrite, hread]

theorem ofDocument?_of_sturdy (h : r.Persisted) (hmode : Text.HasNumeral r.darkMode)
    (hname : Preferences.Sturdy r.preferences.file) :
    Preferences.ofDocument? r.settings = some r.preferences := by
  obtain ⟨d, horderly, hsettings⟩ := h.settings
  rw [hsettings]
  exact Preferences.ofDocument?_setAll_of_sturdy horderly hmode hname

end Session.Persisted

/-- Any mode and any use of themes in a session with a sturdy name for the current file: once
closing has stored them and destroyed the window, the next session in the folder loads the same
settings, the same mode, the same file, and the same use of themes provided that there is anything
under the name of the theme folder. Closing gets there if nothing stands against it and the settings
can be written. The modes that occur are all of this kind. -/
theorem preferences_restored {s x : Session} {name : Text} (hs : s.Reached)
    (hsettings : x.settings = s.settings) (hmode : Text.HasNumeral x.darkMode)
    (hname : Preferences.Sturdy name) (answers : Script) :
    (∀ r, Command.close (x.beginAction answers) = .ok ⟨⟩ r → r.Destroyed → r.file = .named name →
      ∀ later : Session, later.folder = r.folder →
        Command.loadPreferences later = .ok ⟨⟩ { later with
          settings := r.settings
          darkMode := x.darkMode
          azure := x.azure && later.hasThemeFolder
          file := .named name }) ∧
    (x.file = .named name → x.switches.running = false → x.dirty = false →
      (∃ folder, x.folder.writeText Session.settingsName [] = .ok folder) →
      ∃ r, Command.close (x.beginAction answers) = .ok ⟨⟩ r ∧ r.Destroyed ∧
        r.file = .named name) ∧
    Text.HasNumeral s.darkMode := by
  have hconsistent := hs.consistent
  refine ⟨fun r hclose hdestroyed hfile later hfolder => ?_,
    fun hfile hrunning hdirty hwritable => ?_,
    hconsistent.2 _ (List.mem_cons_self ..)⟩
  · have horderly : Preferences.Orderly x.settings := hsettings ▸ hconsistent.1
    have hpersisted := Command.persisted_of_close horderly hclose hdestroyed
    obtain ⟨hdark, hazure⟩ := Command.switches_of_close hclose
    have hp : r.preferences = ⟨x.darkMode, x.azure, name⟩ := by
      rw [Session.preferences, hdark, hazure, hfile]
      rfl
    have hsturdy : Preferences.Sturdy r.preferences.file := hp ▸ hname
    have hin := hpersisted.settingsIn?_of_sturdy hsturdy
    rw [← hfolder] at hin
    have hfound := hpersisted.ofDocument?_of_sturdy (hdark ▸ hmode) hsturdy
    rw [hp] at hfound
    exact Command.loadPreferences_of_eq hin hfound
  · have hstorable : x.file.Storable :=
      ⟨name, hfile, Settings.strayPercent?_of_notMem hname.noPercent⟩
    rw [← hfile]
    exact Command.exists_close (s := x.beginAction answers) hrunning hdirty hstorable hwritable

/-- A session with further settings, in another mode and with a blank in the name of its file. -/
theorem preferences_restored_blank :
    let settings := "[DEFAULT]\nq=1\n".toList ++ Folder.sampleSettings "a\n[m]\nx=y\n z".toList
    let folder := Folder.ofFiles [(Session.settingsName, Text.encode settings)]
    let s := Session.startedIn folder
    let x := { s with darkMode := -7, azure := true, file := .named ['b', ' ', 'c'] }
    ∃ r, Command.close (x.beginAction .silent) = .ok ⟨⟩ r ∧
      let later := Session.initial r.folder .silent
      Command.loadPreferences later = .ok ⟨⟩ { later with
        settings := r.settings
        darkMode := -7
        azure := later.hasThemeFolder
        file := .named ['b', ' ', 'c'] } := by
  intro settings folder s x
  have hfacts : Command.succeeds Command.start (.initial folder .silent) = true ∧
      s.switches.running = false ∧ s.dirty = false ∧
      (s.folder.writeText Session.settingsName []).isOk = true := by
    decide +kernel
  obtain ⟨hok, hrunning, hdirty, hwritable⟩ := hfacts
  have hreached : s.Reached := Session.reached_startedIn hok
  have hmode : Text.HasNumeral (-7) := Nat.lt_of_lt_of_le (by decide)
    (Nat.pow_le_pow_right (by decide) (show 1 ≤ Text.maxDigits by decide))
  have hname : Preferences.Sturdy ['b', ' ', 'c'] :=
    ⟨by decide, ⟨by decide, by decide⟩, ⟨by simpa using by decide, by simpa using by decide⟩⟩
  obtain ⟨hrestored, hcloses, -⟩ :=
    preferences_restored (x := x) hreached rfl hmode hname .silent
  obtain ⟨r, hclose, hdestroyed, hfile⟩ := hcloses rfl hrunning hdirty
    (Folder.exists_writeText_of_isOk hwritable)
  exact ⟨r, hclose, hrestored r hclose hdestroyed hfile _ rfl⟩

/-- A file under the name of the theme folder counts as well: the use of themes was switched on in a
session, and is loaded by the next one, which cannot be started. -/
theorem themes_used_without_folder :
    let theme := Session.themeFolder.toList
    let folder := Folder.sample ['a'] [(theme, Text.encode ['x'])]
    let s := Session.startedIn folder
    let opened := s.react 0 (.menu ["Settings".toList]) .silent
    let clicked := opened.react 0 (.click "Azure theme".toList) .silent
    let r := Command.after Command.close (clicked.beginAction .silent)
    let later := Session.initial r.folder .silent
    let loaded := Command.after Command.loadPreferences later
    clicked.Reached ∧ clicked.azure = true ∧
      Command.close (clicked.beginAction .silent) = .ok ⟨⟩ r ∧ r.Destroyed ∧
      r.file = .named ['a'] ∧ r.folder.readCause theme = .ok (Text.encode ['x']) ∧
      Command.loadPreferences later = .ok ⟨⟩ loaded ∧ loaded.azure = true ∧
      ∃ fault, Command.start later = .error fault (Command.after Command.start later) := by
  intro theme folder s opened clicked r later loaded
  have hfacts : Command.succeeds Command.start (.initial folder .silent) = true ∧
      clicked.azure = true ∧ Command.succeeds Command.close (clicked.beginAction .silent) = true ∧
      r.isDestroyed = true ∧ r.file.hasName ['a'] = true ∧
      r.folder.readCause theme = .ok (Text.encode ['x']) ∧
      Command.succeeds Command.loadPreferences later = true ∧ loaded.azure = true ∧
      Command.succeeds Command.start later = false := by
    decide +kernel
  obtain ⟨hok, hclicked, hclose, hdestroyed, hfile, hentry, hload, hazure, hstart⟩ := hfacts
  have hreached : clicked.Reached :=
    ((Session.reached_startedIn hok).react 0 _ .silent).react 0 _ .silent
  exact ⟨hreached, hclicked, Command.eq_ok_of_succeeds hclose,
    Session.destroyed_of_isDestroyed hdestroyed, FileChoice.eq_named_of_hasName hfile, hentry,
    Command.eq_ok_of_succeeds hload, hazure, Command.exists_eq_error_of_succeeds hstart⟩

end TapeStudio
