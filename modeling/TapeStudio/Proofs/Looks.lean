import TapeStudio.Proofs.Effects

/-! What windows, themes and colours leave alone. -/
namespace TapeStudio

/-- An event that neither asks anything of the user nor fetches anything nor ends anything. -/
def Event.isIncidental : Event → Bool
  | .fileAsked _ _ | .questionAsked _ _ | .fetched _ | .destroyed _ => false
  | _ => true

/-- The mode that is chosen by a control. -/
def ControlKind.mode? : ControlKind → Option Int
  | .radio value => some value
  | _ => none

/-- The mode of a session, and those that can be chosen. -/
def Session.modes (s : Session) : List Int := s.darkMode :: s.controls.filterMap (·.kind.mode?)

theorem Session.mem_modes {s : Session} {mode : Int} :
    mode ∈ s.modes ↔ mode = s.darkMode ∨ ∃ c ∈ s.controls, c.kind.mode? = some mode := by
  rw [modes, List.mem_cons, List.mem_filterMap]

theorem Session.modes_setNewest {s : Session} {caption : Text} {kind : ControlKind}
    (hkind : kind.mode? = none) : (s.setNewest caption kind).modes ⊆ s.modes := by
  have hcontrols (c : Control) (controls : List Control) :
      c ∈ replaceNewest caption ({ · with kind := kind }) controls →
        c ∈ controls ∨ c.kind = kind := by
    fun_induction replaceNewest caption ({ · with kind := kind }) controls with
    | case1 => simp
    | case2 first rest hfirst =>
      intro hc
      rcases List.mem_cons.mp hc with rfl | hc
      · exact .inr rfl
      · exact .inl (List.mem_cons_of_mem _ hc)
    | case3 first rest hfirst ih =>
      intro hc
      rcases List.mem_cons.mp hc with rfl | hc
      · exact .inl (List.mem_cons_self ..)
      · exact (ih hc).imp_left (List.mem_cons_of_mem _)
  intro mode hmem
  rcases mem_modes.mp hmem with rfl | ⟨c, hc, hmode⟩
  · exact List.mem_cons_self ..
  · rcases hcontrols c _ hc with hc | rfl
    · exact mem_modes.mpr (.inr ⟨c, hc, hmode⟩)
    · rw [hkind] at hmode
      contradiction

/-- The second session differs from the first at most in how it looks, and in what was noted of
that. -/
structure LooksOnly (s₀ s : Session) : Prop where
  editor : s.editor = s₀.editor
  input : s.input = s₀.input
  output : s.output = s₀.output
  outputLocked : s.outputLocked = s₀.outputLocked
  lineEntered : s.lineEntered = s₀.lineEntered
  dirty : s.dirty = s₀.dirty
  switches : s.switches = s₀.switches
  title : s.title = s₀.title
  file : s.file = s₀.file
  settings : s.settings = s₀.settings
  folder : s.folder = s₀.folder
  highlighter : s.highlighter = s₀.highlighter
  toolkit : s.toolkit = s₀.toolkit
  comparing : s.comparing = s₀.comparing
  windowOpen : s.windowOpen = s₀.windowOpen
  script : s.script = s₀.script
  requests : s.journal.requests = s₀.journal.requests
  endings : s.journal.endings = s₀.journal.endings
  piecesPrinted : s.journal.piecesPrinted = s₀.journal.piecesPrinted
  events : ∃ more, s.journal.events = s₀.journal.events ++ more ∧
    ∀ event ∈ more, event.isIncidental = true
  modes : s.modes ⊆ 0 :: 1 :: s₀.modes

namespace LooksOnly

variable {s₀ s : Session}

theorem refl (s : Session) : LooksOnly s s :=
  ⟨rfl, rfl, rfl, rfl, rfl, rfl, rfl, rfl, rfl, rfl, rfl, rfl, rfl, rfl, rfl, rfl, rfl, rfl, rfl,
    ⟨[], by simp⟩, fun _ hmode => List.mem_cons_of_mem _ (List.mem_cons_of_mem _ hmode)⟩

theorem log (h : LooksOnly s₀ s) (events : List Event)
    (he : ∀ event ∈ events, event.isIncidental = true) : LooksOnly s₀ (s.log events) := by
  obtain ⟨more, hmore, hincidental⟩ := h.events
  refine { h with events := ⟨more ++ events, ?_, ?_⟩ }
  · simp [Session.log, hmore]
  · intro event hevent
    rcases List.mem_append.mp hevent with hevent | hevent
    · exact hincidental event hevent
    · exact he event hevent

theorem highlight (h : LooksOnly s₀ s) : LooksOnly s₀ s.highlight := by
  unfold Session.highlight
  split
  · exact { h with }
  · exact h

theorem addControl (h : LooksOnly s₀ s) (control : Control)
    (hmode : ∀ mode, control.kind.mode? = some mode → mode ∈ [0, 1]) :
    LooksOnly s₀ (s.addControl control) := by
  refine { h with modes := fun mode hmem => ?_ }
  rcases Session.mem_modes.mp hmem with rfl | ⟨c, hc, hkind⟩
  · exact h.modes (List.mem_cons_self ..)
  · rcases List.mem_cons.mp hc with rfl | hc
    · have hnew : mode ∈ [0, 1] := hmode mode hkind
      exact List.mem_append_left _ hnew
    · exact h.modes (Session.mem_modes.mpr (.inr ⟨c, hc, hkind⟩))

theorem addControls (h : LooksOnly s₀ s) (controls : List Control)
    (hmodes : ∀ mode ∈ controls.filterMap (·.kind.mode?), mode ∈ [0, 1]) :
    LooksOnly s₀ (s.addControls controls) := by
  induction controls generalizing s with
  | nil => exact h
  | cons control rest ih =>
    have hcontrol : LooksOnly s₀ (s.addControl control) := h.addControl control fun mode hmode =>
      hmodes mode (List.mem_filterMap.mpr ⟨control, List.mem_cons_self .., hmode⟩)
    refine ih hcontrol fun mode hmode => hmodes mode ?_
    rw [List.filterMap_cons]
    split
    · exact hmode
    · exact List.mem_cons_of_mem _ hmode

theorem addLink (h : LooksOnly s₀ s) (caption url : String) :
    LooksOnly s₀ (s.addLink caption url) := by
  unfold Session.addLink
  refine (h.log _ ?_).addControl _ (by simp [ControlKind.mode?])
  simp [Event.isIncidental]

theorem setNewest (h : LooksOnly s₀ s) (caption : Text) {kind : ControlKind}
    (hkind : kind.mode? = none) : LooksOnly s₀ (s.setNewest caption kind) :=
  { h with modes := List.Subset.trans (Session.modes_setNewest hkind) h.modes }

theorem openAbout (h : LooksOnly s₀ s) : LooksOnly s₀ s.openAbout := by
  have hwindow : LooksOnly s₀ (s.addWindow "About Brainfuck IDE") := { h with }
  exact (hwindow.addControls _ (by decide)).addLink _ _

theorem openSettings (h : LooksOnly s₀ s) : LooksOnly s₀ s.openSettings := by
  have hwindow : LooksOnly s₀ (s.addWindow "Settings") := { h with }
  have hcontrols := hwindow.addControls [⟨.group, "UI theme"⟩, ⟨.radio 0, "Light mode"⟩,
    ⟨.radio 1, "Dark mode"⟩, ⟨.label, "Restart needed after changing these options!"⟩] (by decide)
  unfold Session.openSettings
  dsimp only
  split
  · exact hcontrols.addControl _ (by simp [ControlKind.mode?])
  · have hprobe := hcontrols.log [.connected Session.probeHost Session.probeService]
      (by simp [Event.isIncidental])
    split
    · exact (hprobe.addControls _ (by decide)).addLink _ _
    · exact hprobe

theorem openWiki (h : LooksOnly s₀ s) : LooksOnly s₀ s.openWiki :=
  h.log _ (by simp [Event.isIncidental])

theorem sourceTheme (h : LooksOnly s₀ s) (name : String) : LooksOnly s₀ (s.sourceTheme name) := by
  have hlog := h.log [.themeSourced (Session.themePath name)] (by simp [Event.isIncidental])
  exact { hlog with }

end LooksOnly

namespace Command

variable {s₀ : Session}

theorem preserves_changeAppearance : Preserves (LooksOnly s₀) changeAppearance := by
  have hchoose : ∀ name, Preserves (LooksOnly s₀) (chooseTheme name) := by
    intro name
    refine (preserves_modify fun s h => h.log _ (by simp [Event.isIncidental])).bind fun _ =>
      preserves_get_bind fun s _ => ?_
    split
    · exact preserves_modify fun s h => { h with }
    · exact preserves_throw _
  refine (preserves_modify fun s h => ?_).bind fun _ => preserves_get_bind fun s _ => ?_
  · exact LooksOnly.highlight { h with }
  · split
    · exact (preserves_modify fun s h => h.sourceTheme _).bind fun _ => hchoose _
    · exact preserves_pure _

/-- Fetching the theme is noted first. Then each step is noted, and the folder and the looks are
changed. -/
theorem meets_downloadTheme {P I : Session → Prop}
    (hfetch : ∀ s, P s → I (s.log [.fetched Session.archiveUrl]))
    (hlooks : ∀ s s', I s → LooksOnly s s' → I s')
    (hfolder : ∀ s folder, I s → I { s with folder := folder }) :
    Meets P downloadTheme (fun _ => I) fun _ => I := by
  have hlog : ∀ percent, Preserves I (log (.progressed percent)) := fun percent =>
    preserves_modify fun s hs =>
      hlooks s _ hs ((LooksOnly.refl s).log _ (by simp [Event.isIncidental]))
  have hchange : ∀ change, Preserves I (onFolder change) := preserves_onFolder hfolder
  have happearance : Preserves I changeAppearance :=
    .of_frame LooksOnly.refl (fun _ => preserves_changeAppearance) hlooks
  have hazure : Preserves I (modify ({ · with azure := true })) :=
    preserves_modify fun s hs => hlooks s _ hs { LooksOnly.refl s with }
  refine Meets.bind (meets_modify hfetch) fun _ => (hchange _).bind fun _ =>
    (hlog 20).bind fun _ => preserves_get_bind fun s _ => ?_
  cases s.script.archive? with
  | none => exact preserves_throw _
  | some archive =>
    exact (hchange _).bind fun _ => (hlog 70).bind fun _ => (hchange _).bind fun _ =>
      (hlog 90).bind fun _ => hazure.bind fun _ => happearance.bind fun _ => hlog 100

/-- A click changes the looks only, or fetches the theme. -/
theorem preserves_click {I : Session → Prop} (caption : Text)
    (hlooks : ∀ s s', I s → LooksOnly s s' → I s') (hdownload : Preserves I downloadTheme) :
    Preserves I (click caption) := by
  have happearance : Preserves I changeAppearance :=
    .of_frame LooksOnly.refl (fun _ => preserves_changeAppearance) hlooks
  have hlook : ∀ f : Session → Session, (∀ s, LooksOnly s (f s)) → Preserves I (modify f) :=
    fun f hf => preserves_modify fun s hs => hlooks s _ hs (hf s)
  apply meets_get_bind
  intro s hs
  have hsame {c : Command Unit} (hc : Preserves I c) :
      Meets (fun s' => s' = s) c (fun _ => I) fun _ => I :=
    hc.weaken (fun _ heq => heq ▸ hs) (fun _ _ hs => hs) fun _ _ hs => hs
  split
  · exact hsame (preserves_pure _)
  next control hcontrol =>
    split
    · exact hsame (preserves_pure _)
    · exact hsame (preserves_pure _)
    · exact hsame (preserves_pure _)
    next value hkind =>
      have hmem := List.mem_of_find?_eq_some hcontrol
      have hmode : value ∈ s.modes :=
        Session.mem_modes.mpr (.inr ⟨control, hmem, by rw [hkind]; rfl⟩)
      refine Meets.bind (R := fun _ => I) (meets_modify ?_) fun _ => happearance
      rintro _ rfl
      refine hlooks _ _ hs { LooksOnly.refl _ with modes := fun mode hm => ?_ }
      refine List.mem_cons_of_mem _ (List.mem_cons_of_mem _ ?_)
      rcases List.mem_cons.mp hm with rfl | hm
      · exact hmode
      · exact List.mem_cons_of_mem _ hm
    · refine hsame (Preserves.bind (hlook _ fun s => ?_) fun _ => happearance)
      exact { LooksOnly.refl s with }
    · exact hsame (Preserves.bind (hlook _ fun s => (LooksOnly.refl s).setNewest caption rfl)
        fun _ => hdownload)
    next link _ =>
      refine hsame (hlook _ fun s => ?_)
      exact ((LooksOnly.refl s).setNewest caption rfl).log _ (by simp [Event.isIncidental])

end Command

end TapeStudio
