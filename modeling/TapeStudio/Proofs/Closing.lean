import TapeStudio.Proofs.FileEffects

/-! How closing goes: what it keeps, by what its questions and its last part keep, and that it comes
to an end. -/
namespace TapeStudio.Command

variable {α : Type} {I : Session → Prop}

/-- A question takes a reply and is noted. It cannot fail. -/
theorem meets_ask_of_keeps {question : Question} {E : Fault → Session → Prop}
    (htake : ∀ s replies, I s → I { s with script := { s.script with replies := replies } })
    (hlog : ∀ s reply, I s → I (s.log [.questionAsked question reply])) :
    Meets I (ask question) (fun _ => I) E := by
  refine Meets.bind (R := fun _ => I) (meets_modifyGet ?_) fun reply => ?_
  · exact fun s hs => Session.takeReply_of_keeps htake hs _
  · refine Meets.bind (R := fun _ => I) (meets_modify ?_) fun _ => meets_pure fun _ hs => hs
    exact fun s hs => hlog s reply hs

theorem preserves_ask {question : Question}
    (htake : ∀ s replies, I s → I { s with script := { s.script with replies := replies } })
    (hlog : ∀ s reply, I s → I (s.log [.questionAsked question reply])) :
    Preserves I (ask question) := meets_ask_of_keeps htake hlog

theorem preserves_offerStop {again : Command Unit} (hask : Preserves I (ask .killProgram))
    (hstop : ∀ s, I s → I s.pressStop) (hagain : Preserves I again) :
    Preserves I (offerStop again) := by
  refine preserves_get_bind fun s _ => ?_
  split
  · refine hask.bind fun reply => ?_
    split
    · exact (preserves_modify hstop).bind fun _ => hagain
    · exact preserves_pure _
  · exact preserves_pure _

/-- While unsaved text is offered to be saved, more can be known than in between (`K`). -/
theorem preserves_offerSave_of_dirty {K : Session → Prop} {again : Command Unit}
    (hdirty : ∀ s, I s → s.dirty = true → K s) (hask : Preserves K (ask .saveChanges))
    (hclean : ∀ s, K s → K { s with dirty := false }) (hsave : Preserves K save)
    (hK : ∀ s, K s → I s) (hagain : Preserves I again) : Preserves I (offerSave again) := by
  have hweak {c : Command Unit} (hc : Preserves K c) : Meets K c (fun _ => K) fun _ => I :=
    hc.weaken (fun _ hs => hs) (fun _ _ hs => hs) fun _ s => hK s
  have hagain' : Meets K again (fun _ => I) fun _ => I :=
    hagain.weaken hK (fun _ _ hs => hs) fun _ _ hs => hs
  have hclean' : Meets K (modify ({ · with dirty := false })) (fun _ => K) fun _ => I :=
    meets_modify hclean
  apply meets_get_bind
  intro s hs
  split
  next hunsaved =>
    have hreply : Meets (fun s' => s' = s) (ask .saveChanges) (fun _ => K) fun _ => I := by
      refine hask.weaken ?_ (fun _ _ hs => hs) fun _ s => hK s
      rintro _ rfl
      exact hdirty _ hs hunsaved
    apply hreply.bind
    intro reply
    split
    · exact hclean'.bind fun _ => (hweak hsave).bind fun _ => hagain'
    · split
      · exact hclean'.bind fun _ => hagain'
      · exact meets_pure fun s => hK s
  · apply meets_pure
    rintro _ rfl
    exact hs

theorem preserves_offerSave {again : Command Unit} (hask : Preserves I (ask .saveChanges))
    (hclean : ∀ s, I s → I { s with dirty := false }) (hsave : Preserves I save)
    (hagain : Preserves I again) : Preserves I (offerSave again) :=
  preserves_offerSave_of_dirty (fun _ hs _ => hs) hask hclean hsave (fun _ hs => hs) hagain

theorem preserves_setOptions (hset : ∀ s settings, I s → I { s with settings := settings })
    (entries : List (Text × Text × Text)) : Preserves I (setOptions entries) := by
  induction entries with
  | nil => exact preserves_pure _
  | cons entry rest ih =>
    refine Preserves.bind ?_ fun _ => ih
    unfold setOption
    split
    · exact preserves_throw _
    · exact preserves_modify fun s hs => hset s _ hs

theorem preserves_writeSettings {t : Text}
    (hwrite : ∀ s folder, I s → s.folder.writeText Session.settingsName t = .ok folder →
      I { s with folder := folder }) : Preserves I (writeSettings t) := by
  refine preserves_get_bind fun s hs => ?_
  cases hf : s.folder.writeText Session.settingsName t with
  | ok folder => exact preserves_set (hwrite s folder hs hf)
  | error fault => exact preserves_throw _

/-- Storing the preferences writes the settings file, and changes the settings. -/
theorem preserves_storePreferences
    (hwrite : ∀ s t folder, I s → s.folder.writeText Session.settingsName t = .ok folder →
      I { s with folder := folder })
    (hset : ∀ s settings, I s → I { s with settings := settings }) :
    Preserves I storePreferences := by
  have hprefs : Preserves I setPreferences := by
    refine preserves_get_bind fun s _ => (preserves_setOptions hset _).bind fun _ => ?_
    cases s.file with
    | named name => exact preserves_setOptions hset _
    | unnamed reply => exact preserves_throw _
  exact (preserves_writeSettings fun s => hwrite s []).bind fun _ =>
    hprefs.bind fun _ => preserves_get_bind fun s _ => preserves_writeSettings fun s => hwrite s _

theorem preserves_finishClosing
    (hwrite : ∀ s t folder, I s → s.folder.writeText Session.settingsName t = .ok folder →
      I { s with folder := folder })
    (hset : ∀ s settings, I s → I { s with settings := settings })
    (hdestroy : ∀ s, I s → s.switches.running = false → s.dirty = false → I s.destroyWindow) :
    Preserves I finishClosing := by
  refine meets_get_bind fun s hs => ?_
  split
  next hclean =>
    simp only [Bool.and_eq_true, Bool.not_eq_true'] at hclean
    -- the last step needs that nothing stands against closing, so this is kept along the way
    have hstore : Preserves
        (fun r => I r ∧ r.switches.running = false ∧ r.dirty = false) storePreferences :=
      preserves_storePreferences (fun r t folder hr hf => ⟨hwrite r t folder hr.1 hf, hr.2⟩)
        fun r settings hr => ⟨hset r settings hr.1, hr.2⟩
    refine Meets.bind (hstore.weaken ?_ (fun _ _ hr => hr) fun _ _ hr => hr.1) fun _ =>
      meets_modify fun r hr => hdestroy r hr.1 hr.2.1 hr.2.2
    rintro r rfl
    exact ⟨hs, hclean⟩
  · exact meets_pure fun r hr => hr ▸ hs

/-- What every turn keeps, by what it starts over with, is kept by closing. -/
theorem preserves_closeWithin
    (hturn : ∀ again, Preserves I again → Preserves I (closeTurn again)) (turns : Nat) :
    Preserves I (closeWithin turns) := by
  induction turns with
  | zero => exact preserves_throw _
  | succ turns ih => exact hturn _ ih

theorem preserves_close (h : ∀ again, Preserves I again → Preserves I (closeTurn again)) :
    Preserves I close :=
  preserves_get_bind fun _ _ => preserves_closeWithin h _

/-- The command fails only in these ways. -/
def FailsWith (F : Fault → Prop) (c : Command α) : Prop :=
  Meets (fun _ => True) c (fun _ _ => True) fun fault _ => F fault

section FailsWith

variable {F : Fault → Prop}

theorem FailsWith.bind {β : Type} {c : Command α} {next : α → Command β} (h : FailsWith F c)
    (hnext : ∀ a, FailsWith F (next a)) : FailsWith F (c >>= next) :=
  Meets.bind h hnext

theorem FailsWith.imp {F' : Fault → Prop} {c : Command α} (h : FailsWith F c)
    (hF : ∀ fault, F fault → F' fault) : FailsWith F' c :=
  h.weaken (fun _ hs => hs) (fun _ _ hs => hs) fun fault _ => hF fault

theorem failsWith_pure (a : α) : FailsWith F (pure a) := fun _ _ => trivial

theorem failsWith_modify (f : Session → Session) : FailsWith F (modify f) := fun _ _ => trivial

theorem failsWith_throw {fault : Fault} (h : F fault) :
    FailsWith F (throw fault : Command α) := fun _ _ => h

theorem failsWith_get_bind {next : Session → Command α} (h : ∀ s, FailsWith F (next s)) :
    FailsWith F (get >>= next) := fun s hs => h s s hs

theorem failsWith_ofFile (hF : ∀ fault, F (.file fault)) (x : Except FileFault α) :
    FailsWith F (ofFile x) := by
  cases x with
  | ok a => exact failsWith_pure a
  | error fault => exact failsWith_throw (hF fault)

theorem Preserves.meets {c : Command α} (h : Preserves I c) (hc : FailsWith F c) :
    Meets I c (fun _ => I) fun fault s => F fault ∧ I s := by
  refine (Meets.and h hc).weaken ?_ ?_ ?_
  · exact fun s hs => ⟨hs, trivial⟩
  · exact fun _ _ hs => hs.1
  · exact fun _ _ hs => ⟨hs.2, hs.1⟩

end FailsWith

/-- A fault of the commands on files: there is no file, or it has no name. -/
def OfFiles : Fault → Prop
  | .file _ | .noName _ => True
  | _ => False

theorem failsWith_fileName : FailsWith OfFiles fileName := by
  apply failsWith_get_bind
  intro s
  cases s.file with
  | named name => exact failsWith_pure name
  | unnamed reply => exact failsWith_throw trivial

theorem failsWith_saveNamed : FailsWith OfFiles saveNamed := by
  refine FailsWith.bind ?_ fun _ => failsWith_modify _
  exact failsWith_fileName.bind fun _ => failsWith_get_bind fun _ =>
    (failsWith_ofFile (fun _ => trivial) _).bind fun _ => failsWith_modify _

theorem failsWith_showFile : FailsWith OfFiles showFile := by
  refine (failsWith_modify _).bind fun _ => failsWith_fileName.bind fun name =>
    failsWith_get_bind fun s => ?_
  cases s.folder.readText name with
  | ok content => exact failsWith_modify _
  | error fault =>
    dsimp only
    split
    · exact failsWith_throw trivial
    · exact failsWith_pure _

theorem failsWith_saveAs : FailsWith OfFiles saveAs := by
  refine FailsWith.bind (fun _ _ => trivial) fun file? => ?_
  cases file? with
  | none => exact failsWith_pure _
  | some file =>
    exact (failsWith_modify _).bind fun _ => failsWith_saveNamed.bind fun _ => failsWith_showFile

theorem failsWith_save : FailsWith OfFiles save := by
  apply failsWith_get_bind
  intro s
  split
  · exact failsWith_saveAs.bind fun _ => failsWith_modify _
  · exact failsWith_saveNamed

/-- The command never runs out of turns. -/
def Settles (c : Command α) : Prop := FailsWith (· ≠ .unfinished) c

theorem settles_save : Settles save := by
  apply failsWith_save.imp
  rintro fault h rfl
  exact h

theorem settles_setOptions (entries : List (Text × Text × Text)) :
    Settles (setOptions entries) := by
  induction entries with
  | nil => exact failsWith_pure _
  | cons entry rest ih =>
    refine FailsWith.bind ?_ fun _ => ih
    unfold setOption
    split
    · exact failsWith_throw (by simp)
    · exact failsWith_modify _

theorem settles_finishClosing : Settles finishClosing := by
  have hwrite : ∀ t, Settles (writeSettings t) := fun t =>
    failsWith_get_bind fun _ => (failsWith_ofFile (by simp) _).bind fun _ => failsWith_modify _
  have hprefs : Settles setPreferences := by
    refine failsWith_get_bind fun s => (settles_setOptions _).bind fun _ => ?_
    cases s.file with
    | named name => exact settles_setOptions _
    | unnamed reply => exact failsWith_throw (by simp)
  apply failsWith_get_bind
  intro s
  split
  · refine FailsWith.bind ?_ fun _ => failsWith_modify _
    exact (hwrite _).bind fun _ => hprefs.bind fun _ => failsWith_get_bind fun _ => hwrite _
  · exact failsWith_pure _

/-- A reply that is more than silence was taken from the script. -/
theorem meets_ask (question : Question) (k : Nat) :
    Meets (fun s => s.script.replies.length ≤ k) (ask question)
      (fun reply s => s.script.replies.length ≤ k ∧
        (reply ≠ question.silence → s.script.replies.length < k))
      fun fault _ => fault ≠ .unfinished := by
  refine Meets.bind (R := fun reply s => s.script.replies.length ≤ k ∧
    (reply ≠ question.silence → s.script.replies.length < k)) (meets_modifyGet fun s hs => ?_)
    fun reply => Meets.bind (meets_modify fun s hs => hs) fun _ => meets_pure fun s hs => hs
  unfold Session.takeReply
  split
  · exact ⟨hs, fun h => absurd rfl h⟩
  next reply rest hr =>
    have hlength : s.script.replies.length = rest.length + 1 := by rw [hr, List.length_cons]
    dsimp only
    constructor
    · omega
    · intro _
      omega

/-- Whenever closing starts over in a question, a reply was taken before. -/
theorem meets_offerStop {again : Command Unit} {k : Nat}
    (hagain : Meets (fun s => s.script.replies.length < k) again
      (fun _ s => s.script.replies.length ≤ k) fun fault _ => fault ≠ .unfinished) :
    Meets (fun s => s.script.replies.length ≤ k) (offerStop again)
      (fun _ s => s.script.replies.length ≤ k) fun fault _ => fault ≠ .unfinished := by
  refine Meets.get_bind fun s _ => ?_
  split
  · refine (meets_ask .killProgram k).bind fun reply => ?_
    split
    next hyes =>
      have hreply : reply ≠ Question.killProgram.silence := by
        rintro rfl
        simp [Question.silence, Value.isYes] at hyes
      exact Meets.bind (R := fun _ s => s.script.replies.length < k)
        (meets_modify fun s hs => hs.2 hreply) fun _ => hagain
    · exact meets_pure fun _ hs => hs.1
  · exact meets_pure fun _ hs => hs

theorem meets_offerSave {again : Command Unit} {k : Nat}
    (hagain : Meets (fun s => s.script.replies.length < k) again
      (fun _ s => s.script.replies.length ≤ k) fun fault _ => fault ≠ .unfinished) :
    Meets (fun s => s.script.replies.length ≤ k) (offerSave again)
      (fun _ s => s.script.replies.length ≤ k) fun fault _ => fault ≠ .unfinished := by
  have hsave : Preserves (fun s => s.script.replies.length < k) save :=
    .of_frame FilesOnly.refl (fun _ => filesOnly_save) fun s s' hs hf =>
      Nat.lt_of_le_of_lt hf.replies.length_le hs
  refine Meets.get_bind fun s _ => ?_
  split
  · refine (meets_ask .saveChanges k).bind fun reply => ?_
    split
    next hyes =>
      have hreply : reply ≠ Question.saveChanges.silence := by
        rintro rfl
        simp [Question.silence, Value.isYes] at hyes
      exact Meets.bind (R := fun _ s => s.script.replies.length < k)
        (meets_modify fun s hs => hs.2 hreply) fun _ =>
          Meets.bind ((hsave.meets settles_save).weaken (fun _ hs => hs) (fun _ _ hs => hs)
            fun _ _ hf => hf.1) fun _ => hagain
    · split
      next hno =>
        have hreply : reply ≠ Question.saveChanges.silence := by
          rintro rfl
          simp [Question.silence, Value.isNo] at hno
        exact Meets.bind (R := fun _ s => s.script.replies.length < k)
          (meets_modify fun s hs => hs.2 hreply) fun _ => hagain
      · exact meets_pure fun _ hs => hs.1
  · exact meets_pure fun _ hs => hs

theorem meets_closeTurn {again : Command Unit} {k : Nat}
    (h : Meets (fun s => s.script.replies.length < k) again
      (fun _ s => s.script.replies.length < k) fun fault _ => fault ≠ .unfinished) :
    Meets (fun s => s.script.replies.length ≤ k) (closeTurn again)
      (fun _ s => s.script.replies.length ≤ k) fun fault _ => fault ≠ .unfinished := by
  have hagain := h.weaken (fun _ hs => hs) (fun _ _ => Nat.le_of_lt) fun _ _ hf => hf
  have hfinish : Preserves (fun s => s.script.replies.length ≤ k) finishClosing :=
    preserves_finishClosing (fun _ _ _ hs _ => hs) (fun _ _ hs => hs) fun _ hs _ _ => hs
  exact (meets_offerStop hagain).bind fun _ => (meets_offerSave hagain).bind fun _ =>
    (hfinish.meets settles_finishClosing).weaken (fun _ hs => hs) (fun _ _ hs => hs)
      fun _ _ hf => hf.1

/-- Closing comes to an end if there are more turns than replies. -/
theorem closeWithin_ne_unfinished {s r : Session} {turns : Nat}
    (h : s.script.replies.length < turns) : closeWithin turns s ≠ .error .unfinished r := by
  have hturns : Meets (fun s => s.script.replies.length < turns) (closeWithin turns)
      (fun _ s => s.script.replies.length < turns) fun fault _ => fault ≠ .unfinished := by
    clear h
    induction turns with
    | zero => exact fun s hs => absurd hs (Nat.not_lt_zero _)
    | succ turns ih =>
      exact (meets_closeTurn ih).weaken (fun _ => Nat.le_of_lt_succ) (fun _ _ => Nat.lt_succ_of_le)
        fun _ _ hf => hf
  intro hclose
  have hs := hturns s h
  rw [hclose] at hs
  exact hs rfl

end TapeStudio.Command
