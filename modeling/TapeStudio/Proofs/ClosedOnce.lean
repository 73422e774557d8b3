import TapeStudio.Proofs.Persistence

/-! Closing inside closing. After a yes or a no to the question whether to save, closing starts
over, and the turn in which it was asked goes on when that is done: the settings are written twice,
and the window is destroyed twice. Together this leaves what one of them would. -/
namespace TapeStudio

theorem OptionList.set_of_lookup {name value : Text} {options : OptionList}
    (h : options.lookup name = some value) : set name value options = options := by
  fun_induction set name value options with
  | case1 => contradiction
  | case2 old rest =>
    rw [List.lookup_cons_self, Option.some.injEq] at h
    rw [h]
  | case3 other old rest hne ih =>
    rw [List.lookup_cons, beq_false_of_ne (Ne.symm hne)] at h
    rw [ih h]

namespace Document

variable {d : Document} {entry : Text × Text × Text} {entries : List (Text × Text × Text)}

/-- The option is set to this value, in all sections of the name. -/
def Has (d : Document) (entry : Text × Text × Text) : Prop :=
  ∀ s ∈ d.sections, s.name = entry.1 → s.options.lookup entry.2.1 = some entry.2.2

/-- Setting an option to the value that it has changes nothing. -/
theorem Has.setRaw_eq (h : d.Has entry) : d.setRaw entry.1 entry.2.1 entry.2.2 = d := by
  have hsections (s : Section) (hs : s ∈ d.sections) : (if s.name = entry.1 then
      { s with options := OptionList.set entry.2.1 entry.2.2 s.options } else s) = s := by
    split
    next hname => rw [OptionList.set_of_lookup (h s hs hname)]
    · rfl
  unfold setRaw
  rw [List.map_congr_left hsections, List.map_id']

theorem has_setRaw (d : Document) (entry : Text × Text × Text) :
    (d.setRaw entry.1 entry.2.1 entry.2.2).Has entry := by
  intro s hs hname
  obtain ⟨s', -, rfl⟩ := List.mem_map.mp hs
  split at hname
  next hname' => simp [hname', OptionList.lookup_set]
  next hname' => exact absurd hname hname'

/-- An option keeps its value when another one is set. -/
theorem Has.setRaw (h : d.Has entry) {name option : Text} (value : Text)
    (hne : (entry.1, entry.2.1) ≠ (name, option)) : (d.setRaw name option value).Has entry := by
  intro s hs hname
  obtain ⟨s', hs', rfl⟩ := List.mem_map.mp hs
  by_cases hsection : s'.name = name
  · rw [if_pos hsection] at hname ⊢
    have hoption : entry.2.1 ≠ option := by
      rintro rfl
      exact hne (by rw [← hname, ← hsection])
    dsimp only at hname ⊢
    rw [OptionList.lookup_set, if_neg hoption]
    exact h s' hs' hname
  · rw [if_neg hsection] at hname ⊢
    exact h s' hs' hname

theorem Has.setAll (h : d.Has entry)
    (hne : ∀ other ∈ entries, (entry.1, entry.2.1) ≠ (other.1, other.2.1)) :
    (d.setAll entries).Has entry := by
  induction entries generalizing d with
  | nil => exact h
  | cons first rest ih =>
    exact ih (h.setRaw _ (hne first (List.mem_cons_self ..))) fun other hother =>
      hne other (List.mem_cons_of_mem _ hother)

theorem has_setAll (hentries : (entries.map fun entry => (entry.1, entry.2.1)).Nodup)
    (d : Document) : ∀ entry ∈ entries, (d.setAll entries).Has entry := by
  induction entries generalizing d with
  | nil => simp
  | cons first rest ih =>
    obtain ⟨hfirst, hrest⟩ := List.nodup_cons.mp hentries
    intro entry hentry
    rcases List.mem_cons.mp hentry with rfl | hentry
    · refine (has_setRaw d entry).setAll fun other hother heq => hfirst ?_
      exact List.mem_map.mpr ⟨other, hother, heq.symm⟩
    · exact ih hrest _ entry hentry

theorem setAll_of_has (h : ∀ entry ∈ entries, d.Has entry) : d.setAll entries = d := by
  induction entries with
  | nil => rfl
  | cons first rest ih =>
    obtain ⟨hfirst, hrest⟩ := List.forall_mem_cons.mp h
    rw [setAll, List.foldl_cons, hfirst.setRaw_eq]
    exact ih hrest

/-- Setting the preferences a second time changes nothing. -/
theorem setAll_setAll (d : Document) (p : Preferences) :
    (d.setAll p.entries).setAll p.entries = d.setAll p.entries := by
  have hplaces : (p.entries.map fun entry => (entry.1, entry.2.1)).Nodup := by
    change [(Preferences.settingsSection, Preferences.darkModeOption),
      (Preferences.settingsSection, Preferences.azureOption),
      (Preferences.filesSection, Preferences.fileOption)].Nodup
    decide
  exact setAll_of_has (has_setAll hplaces d)

end Document

namespace Session

/-- The second session is left where the first one is closed: the window is gone, the settings file
holds the preferences, and other files are as they were. -/
structure ClosedAs (s r : Session) : Prop where
  window : r.windowOpen = false
  dirty : r.dirty = false
  editor : r.editor = s.editor
  preferences : r.preferences = s.preferences
  settings : r.settings = s.settings.setAll s.preferences.entries
  stored : r.folder.readCause settingsName = .ok (Text.encode (Settings.write r.settings))
  routes {name : Text} {route : Route} :
    s.folder.route name = .ok route → r.folder.route name = .ok route
  others {p : Path} : p ≠ [settingsName] → r.folder.find? p = s.folder.find? p

variable {s r q : Session} {name : Text}

/-- To close again what is closed leaves what closing once does. -/
theorem ClosedAs.again (h : s.ClosedAs r) (h' : r.ClosedAs q) : s.ClosedAs q where
  window := h'.window
  dirty := h'.dirty
  editor := h'.editor.trans h.editor
  preferences := h'.preferences.trans h.preferences
  settings := by
    rw [h'.settings, h.settings, h.preferences, Document.setAll_setAll]
  stored := h'.stored
  routes hroute := h'.routes (h.routes hroute)
  others hp := (h'.others hp).trans (h.others hp)

theorem ClosedAs.readCause_eq (h : s.ClosedAs r) {p : Path} (hplace : s.folder.place? name = some p)
    (hp : p ≠ [settingsName]) : r.folder.readCause name = s.folder.readCause name := by
  unfold Folder.place? at hplace
  cases hroute : s.folder.route name with
  | error cause =>
    rw [hroute] at hplace
    contradiction
  | ok route =>
    rw [hroute] at hplace
    obtain rfl := Option.some.inj hplace
    exact Folder.readCause_congr hroute (h.routes hroute) (h.others hp)

def replyTo (s : Session) (question : Question) : Value :=
  s.script.replies.headD question.silence

/-- The session after a question, which takes the next reply. -/
def afterQuestion (s : Session) (question : Question) : Session :=
  { s with script := { s.script with replies := s.script.replies.tail } }.log
    [.questionAsked question (s.replyTo question)]

/-- The session after a yes or a no to the question whether to save. -/
def decided (s : Session) : Session :=
  { s.afterQuestion .saveChanges with dirty := false }

/-- The session in which closing goes on once the choice whether to save is carried out. The current
file holds the text if that was the choice; nothing that closing stores has changed. -/
structure Continued (s : Session) (name : Text) (b : Session) : Prop where
  editor : b.editor = s.editor
  preferences : b.preferences = s.preferences
  settings : b.settings = s.settings
  place {p : Path} : s.folder.place? name = some p → b.folder.place? name = some p
  current : b.folder.readCause name = if s.dirty && (s.replyTo .saveChanges).isYes
    then .ok (Text.encode (s.editor.content ++ ['\n'])) else s.folder.readCause name
  others {p : Path} : s.folder.place? name ≠ some p → b.folder.find? p = s.folder.find? p

/-- Where nothing is to be saved, closing goes on at once. -/
theorem continued_self (h : (s.dirty && (s.replyTo .saveChanges).isYes) = false) (name : Text) :
    s.Continued name s := by
  refine ⟨rfl, rfl, rfl, id, ?_, fun _ => rfl⟩
  rw [h, if_neg Bool.false_ne_true]

theorem continued_decided (h : (s.replyTo .saveChanges).isYes = false) (name : Text) :
    s.Continued name s.decided := by
  refine ⟨rfl, rfl, rfl, id, ?_, fun _ => rfl⟩
  rw [h, Bool.and_false, if_neg Bool.false_ne_true]
  rfl

theorem continued_saved {folder : Folder} (hdirty : s.dirty = true)
    (hyes : (s.replyTo .saveChanges).isYes = true)
    (hwrite : s.folder.writeText name s.editor.whole = .ok folder) :
    s.Continued name { s.decided with folder := folder }.markClean := by
  refine ⟨rfl, rfl, rfl, Folder.place?_of_writeText hwrite, ?_,
    Folder.find?_of_writeText_of_ne hwrite⟩
  rw [hdirty, hyes, Bool.and_self, if_pos rfl]
  exact (Folder.readCause_of_writeText hwrite).trans (by rw [TextBox.whole_eq]; rfl)

end Session

namespace Command

open Session

variable {s : Session}

theorem ask_eq (question : Question) (s : Session) :
    ask question s = .ok (s.replyTo question) (s.afterQuestion question) := by
  change EStateM.Result.ok (s.takeReply question.silence).1
    ((s.takeReply question.silence).2.log
      [.questionAsked question (s.takeReply question.silence).1]) = _
  rw [takeReply_eq]
  rfl

theorem exists_finishClosing (h : s.Closable) : ∃ r, finishClosing s = .ok ⟨⟩ r ∧ s.ClosedAs r ∧
    r.Closable ∧ r.journal.events = s.journal.events ++ [.destroyed s.windowOpen] := by
  obtain ⟨emptied, folder, hemptied, hfolder, hfinish⟩ := finishClosing_of_closable h
  have hstored := Folder.readCause_of_writeText hfolder
  refine ⟨_, hfinish, ⟨rfl, h.dirty, rfl, rfl, rfl, hstored, fun hroute => ?_, fun hp => ?_⟩,
    ⟨h.running, h.dirty, h.storable, Folder.exists_writeText_again hfolder []⟩, rfl⟩
  · exact Folder.route_of_writeText hfolder (Folder.route_of_writeText hemptied hroute)
  · have hplace (f : Folder) : f.place? settingsName ≠ some _ :=
      fun heq => hp (Option.some.inj ((place?_settingsName f).symm.trans heq)).symm
    exact (Folder.find?_of_writeText_of_ne hfolder (hplace _)).trans
      (Folder.find?_of_writeText_of_ne hemptied (hplace _))

/-- A turn inside another one: both close. -/
theorem exists_closeWithin_finishClosing (h : s.Closable) (turns : Nat) :
    ∃ r, (closeWithin (turns + 1) >>= fun _ => finishClosing) s = .ok ⟨⟩ r ∧ s.ClosedAs r ∧
      r.journal.events = s.journal.events ++ [.destroyed s.windowOpen, .destroyed false] := by
  obtain ⟨r, hinner, hclosed, hclosable, hevents⟩ := exists_finishClosing h
  obtain ⟨q, houter, hagain, -, hevents'⟩ := exists_finishClosing hclosable
  have hturn : closeWithin (turns + 1) s = .ok ⟨⟩ r :=
    (closeTurn_of_clean h.running h.dirty _).trans hinner
  refine ⟨q, (bind_of_ok hturn).trans houter, hclosed.again hagain, ?_⟩
  rw [hevents', hevents, hclosed.window, List.append_assoc]
  rfl

/-- The question whether to save, by the reply. -/
theorem offerSave_of_dirty (hdirty : s.dirty = true) (again : Command Unit) :
    offerSave again s =
      if (s.replyTo .saveChanges).isYes then (save >>= fun _ => again) s.decided
      else if (s.replyTo .saveChanges).isNo then again s.decided
      else .ok ⟨⟩ (s.afterQuestion .saveChanges) := by
  change (if s.dirty then _ else pure () : Command Unit) s = _
  rw [hdirty, if_pos rfl, bind_of_ok (ask_eq .saveChanges s)]
  split
  · rfl
  · split <;> rfl

/-- Closing with unsaved text, by the reply to the question whether to save. -/
theorem close_of_unsaved (hrunning : s.switches.running = false) (hdirty : s.dirty = true) :
    let again := closeWithin s.script.replies.length >>= fun _ => finishClosing
    close s =
      if (s.replyTo .saveChanges).isYes then (save >>= fun _ => again) s.decided
      else if (s.replyTo .saveChanges).isNo then again s.decided
      else .ok ⟨⟩ (s.afterQuestion .saveChanges) := by
  intro again
  have hclose : close s =
      (offerSave (closeWithin s.script.replies.length) >>= fun _ => finishClosing) s :=
    closeTurn_of_idle hrunning _
  have hoffer := offerSave_of_dirty hdirty (closeWithin s.script.replies.length)
  rw [hclose]
  cases hyes : (s.replyTo .saveChanges).isYes with
  | true =>
    rw [hyes, if_pos rfl] at hoffer
    rw [bind_congr_left hoffer, bind_assoc, if_pos rfl]
  | false =>
    rw [hyes, if_neg Bool.false_ne_true] at hoffer
    cases hno : (s.replyTo .saveChanges).isNo with
    | true =>
      rw [hno, if_pos rfl] at hoffer
      exact bind_congr_left hoffer _
    | false =>
      rw [hno, if_neg Bool.false_ne_true] at hoffer
      rw [bind_of_ok hoffer]
      change (if !s.switches.running && !s.dirty then _ else pure () : Command Unit) _ = _
      rw [hdirty, Bool.not_true, Bool.and_false]
      rfl

/-- A yes or a no is a reply of the script, so that there is a turn for it. -/
theorem exists_turns (h : (s.replyTo .saveChanges).isYes = true ∨
    (s.replyTo .saveChanges).isNo = true) : ∃ turns, s.script.replies.length = turns + 1 := by
  unfold replyTo at h
  cases hreplies : s.script.replies with
  | nil =>
    rw [hreplies] at h
    exact absurd h (by decide)
  | cons reply rest => exact ⟨rest.length, rfl⟩

/-- Closing goes through unless the question whether to save is left without a yes or a no. -/
theorem exists_close_continued {name : Text} (hrunning : s.switches.running = false)
    (hfile : s.file = .named name) (hname : name ≠ []) (hstorable : s.file.Storable)
    (hwritable : ∃ folder, s.folder.writeText name [] = .ok folder)
    (hsettings : ∃ folder, s.folder.writeText settingsName [] = .ok folder)
    (hreply : s.dirty = true → (s.replyTo .saveChanges).isYes = true ∨
      (s.replyTo .saveChanges).isNo = true) :
    ∃ b r, s.Continued name b ∧ b.ClosedAs r ∧ close s = .ok ⟨⟩ r ∧
      r.journal.events = s.journal.events ++ if s.dirty
        then [.questionAsked .saveChanges (s.replyTo .saveChanges), .destroyed s.windowOpen,
          .destroyed false]
        else [.destroyed s.windowOpen] := by
  cases hdirty : s.dirty with
  | false =>
    obtain ⟨r, hfinish, hclosed, -, hevents⟩ :=
      exists_finishClosing ⟨hrunning, hdirty, hstorable, hsettings⟩
    refine ⟨s, r, continued_self (by rw [hdirty, Bool.false_and]) name, hclosed, ?_, hevents⟩
    rw [close_of_clean hrunning hdirty, hfinish]
  | true =>
    -- the reply that was given leaves a turn for closing to start over
    obtain ⟨turns, hturns⟩ := exists_turns (hreply hdirty)
    rw [close_of_unsaved hrunning hdirty, hturns]
    cases hyes : (s.replyTo .saveChanges).isYes with
    | true =>
      obtain ⟨g, hg⟩ := hwritable
      obtain ⟨emptied, hemptied⟩ := hsettings
      obtain ⟨folder, hwrite⟩ := Folder.exists_writeText hg s.editor.whole
      have hsave : save s.decided = .ok ⟨⟩ { s.decided with folder := folder }.markClean :=
        save_of_writeText hfile hname hwrite
      have hclosable : { s.decided with folder := folder }.markClean.Closable :=
        ⟨hrunning, rfl, hstorable, Folder.exists_writeText_of_writeText hwrite hemptied⟩
      obtain ⟨r, hr, hclosed, hevents⟩ := exists_closeWithin_finishClosing hclosable turns
      refine ⟨_, r, continued_saved hdirty hyes hwrite, hclosed, ?_, ?_⟩
      · rw [if_pos rfl, bind_of_ok hsave, hr]
      · rw [hevents, if_pos rfl]
        exact List.append_assoc ..
    | false =>
      have hno := ((hreply hdirty).resolve_left (Bool.eq_false_iff.mp hyes))
      obtain ⟨r, hr, hclosed, hevents⟩ := exists_closeWithin_finishClosing
        (s := s.decided) ⟨hrunning, rfl, hstorable, hsettings⟩ turns
      refine ⟨_, r, continued_decided hyes name, hclosed, ?_, ?_⟩
      · rw [if_neg Bool.false_ne_true, if_pos hno, hr]
      · rw [hevents, if_pos rfl]
        exact List.append_assoc ..

end Command

open Session

/-- Closing while no program runs, with a current file that can be written, whose name has no
percent sign, and which is not the settings file. After a cancel only the reply is gone. Otherwise,
if the settings file can be written, the window is gone, the settings file holds what storing the
preferences once leaves there, the current file holds the text if a yes asked for that and is as it
was if not, and no other place has changed. The question was asked once if there was unsaved text,
and not at all if there was none. -/
theorem closing_takes_effect_once {s : Session} {name : Text}
    (hrunning : s.switches.running = false) (hopen : s.windowOpen = true)
    (hfile : s.file = .named name) (hname : name ≠ []) (hpercent : '%' ∉ name)
    (hwritable : ∃ folder, s.folder.writeText name [] = .ok folder) (hapart : s.Apart) :
    let reply := s.replyTo .saveChanges
    let asked := Event.questionAsked .saveChanges reply
    (s.dirty = true → reply.isYes = false → reply.isNo = false →
      Command.close s = .ok ⟨⟩
        ({ s with script := { s.script with replies := s.script.replies.tail } }.log [asked])) ∧
    ((s.dirty = true → reply.isYes = true ∨ reply.isNo = true) →
      (∃ folder, s.folder.writeText settingsName [] = .ok folder) →
      ∃ r once, Command.close s = .ok ⟨⟩ r ∧ Command.storePreferences s = .ok ⟨⟩ once ∧
        r.windowOpen = false ∧ r.dirty = false ∧ r.editor = s.editor ∧
        r.settings = once.settings ∧
        r.folder.readCause settingsName = .ok (Text.encode (Settings.write once.settings)) ∧
        r.folder.readCause settingsName = once.folder.readCause settingsName ∧
        r.folder.readCause name = (if s.dirty && reply.isYes
          then .ok (Text.encode (s.editor.content ++ ['\n'])) else s.folder.readCause name) ∧
        (∀ p, p ≠ [settingsName] → s.folder.place? name ≠ some p →
          r.folder.find? p = s.folder.find? p) ∧
        r.journal.events = s.journal.events ++
          if s.dirty then [asked, .destroyed true, .destroyed false] else [.destroyed true]) := by
  intro reply asked
  refine ⟨fun hdirty hyes hno => ?_, fun hreply hsettings => ?_⟩
  · rw [Command.close_of_unsaved hrunning hdirty, if_neg (Bool.eq_false_iff.mp hyes),
      if_neg (Bool.eq_false_iff.mp hno)]
    rfl
  have hstorable : s.file.Storable := ⟨name, hfile, Settings.strayPercent?_of_notMem hpercent⟩
  obtain ⟨emptied, folder, -, hfolder, hstore⟩ :=
    Command.storePreferences_of_storable hstorable hsettings
  have hstored := Folder.readCause_of_writeText hfolder
  obtain ⟨b, r, hcontinued, hclosed, hclose, hevents⟩ := Command.exists_close_continued hrunning
    hfile hname hstorable hwritable hsettings hreply
  have hrsettings : r.settings = s.settings.setAll s.preferences.entries := by
    rw [hclosed.settings, hcontinued.settings, hcontinued.preferences]
  have hrstored : r.folder.readCause settingsName =
      .ok (Text.encode (Settings.write (s.settings.setAll s.preferences.entries))) := by
    rw [hclosed.stored, hrsettings]
  obtain ⟨g, hg⟩ := hwritable
  obtain ⟨place, hplace⟩ := Folder.exists_place?_of_writeText hg
  have hne : place ≠ [settingsName] := fun heq => hapart name hfile (heq ▸ hplace)
  refine ⟨r, _, hclose, hstore, hclosed.window, hclosed.dirty,
    hclosed.editor.trans hcontinued.editor, hrsettings, hrstored, hrstored.trans hstored.symm,
    (hclosed.readCause_eq (hcontinued.place hplace) hne).trans hcontinued.current,
    fun p hp hother => (hclosed.others hp).trans (hcontinued.others hother), ?_⟩
  rw [hevents, hopen]

/-- Text was typed before the file's own, and is to be saved. -/
theorem closing_takes_effect_once_yes :
    let folder := Folder.sample ['a'] [(['a'], Text.encode ['-'])]
    let started := startedIn folder
    let typed := started.react 0 (.type 0 ['+'] true) .silent
    let s := typed.beginAction { Script.silent with replies := [.bool true] }
    s.dirty = true ∧ ∃ r, Command.close s = .ok ⟨⟩ r ∧ r.windowOpen = false ∧ r.dirty = false ∧
      r.folder.readCause ['a'] = .ok (Text.encode (s.editor.content ++ ['\n'])) ∧
      r.journal.events = s.journal.events ++
        [.questionAsked .saveChanges (s.replyTo .saveChanges), .destroyed true,
          .destroyed false] := by
  intro folder started typed s
  have hfacts : s.switches.running = false ∧ s.windowOpen = true ∧ s.dirty = true ∧
      (s.replyTo .saveChanges).isYes = true ∧ s.file.hasName ['a'] = true ∧
      s.folder.place? ['a'] ≠ some [settingsName] ∧ (s.folder.writeText ['a'] []).isOk = true ∧
      (s.folder.writeText settingsName []).isOk = true := by
    decide +kernel
  obtain ⟨hrunning, hopen, hdirty, hyes, hnamed, hplace, hwritable, hsettings⟩ := hfacts
  have hfile : s.file = .named ['a'] := FileChoice.eq_named_of_hasName hnamed
  have hapart : s.Apart := by
    intro name heq
    obtain rfl := FileChoice.named.inj (hfile.symm.trans heq)
    exact hplace
  obtain ⟨r, -, hclose, -, hwindow, hclean, -, -, -, -, hstored, -, hevents⟩ :=
    (closing_takes_effect_once hrunning hopen hfile (by decide) (by decide)
      (Folder.exists_writeText_of_isOk hwritable) hapart).2 (fun _ => .inl hyes)
      (Folder.exists_writeText_of_isOk hsettings)
  rw [hdirty, hyes, Bool.and_self, if_pos rfl] at hstored
  rw [hdirty, if_pos rfl] at hevents
  exact ⟨hdirty, r, hclose, hwindow, hclean, hstored, hevents⟩

/-- Someone puts a folder in place of the settings file: closing fails, and the window stays. -/
theorem closing_fails_without_settings_file :
    let folder := Folder.sample ['a'] [(['a'], Text.encode ['-'])]
    let started := startedIn folder
    let removed := started.react 0 (.removeFile settingsName) .silent
    let s := removed.react 0 (.makeFolder settingsName) .silent
    s.Reached ∧ s.switches.running = false ∧ s.windowOpen = true ∧ s.dirty = false ∧
      s.file = .named ['a'] ∧ (∃ f, s.folder.writeText ['a'] [] = .ok f) ∧
      s.folder.place? ['a'] ≠ some [settingsName] ∧
      ∃ fault r, Command.close (s.beginAction .silent) = .error fault r ∧ r.windowOpen = true := by
  intro folder started removed s
  have hfacts : Command.succeeds Command.start (.initial folder .silent) = true ∧
      s.switches.running = false ∧ s.windowOpen = true ∧ s.dirty = false ∧
      s.file.hasName ['a'] = true ∧ (s.folder.writeText ['a'] []).isOk = true ∧
      s.folder.place? ['a'] ≠ some [settingsName] ∧
      Command.succeeds Command.close (s.beginAction .silent) = false ∧
      (Command.after Command.close (s.beginAction .silent)).windowOpen = true := by
    decide +kernel
  obtain ⟨hok, hrunning, hopen, hdirty, hnamed, hwritable, hplace, hfails, hstays⟩ := hfacts
  have hreached : s.Reached := ((reached_startedIn hok).react 0 _ .silent).react 0 _ .silent
  obtain ⟨fault, hfault⟩ := Command.exists_eq_error_of_succeeds hfails
  exact ⟨hreached, hrunning, hopen, hdirty, FileChoice.eq_named_of_hasName hnamed,
    Folder.exists_writeText_of_isOk hwritable, hplace, fault, _, hfault, hstays⟩

end TapeStudio
