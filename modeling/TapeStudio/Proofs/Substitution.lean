import TapeStudio.Proofs.Invariant
import TapeStudio.Proofs.Lockstep

/-! Commands with another command in the place of saving, wherever one of them saves. If the other
one does the same as saving in all sessions with some property, and everything keeps that property,
then nothing that is done in a session shows a difference. -/
namespace TapeStudio

namespace Command

/-- The two commands do the same in sessions with `I`. -/
def AgreeOn {α : Type} (I : Session → Prop) (c d : Command α) : Prop := ∀ s, I s → c s = d s

namespace AgreeOn

variable {α β : Type} {I : Session → Prop} {c d : Command Unit}

theorem refl (c : Command α) : AgreeOn I c c := fun _ _ => rfl

theorem bind {R : α → Session → Prop} {E : Fault → Session → Prop} {c d : Command α}
    {f g : α → Command β} (h : AgreeOn I c d) (hd : Meets I d R E)
    (hnext : ∀ a, AgreeOn (R a) (f a) (g a)) : AgreeOn I (c >>= f) (d >>= g) := by
  intro s hs
  have hds := hd s hs
  change EStateM.bind c f s = EStateM.bind d g s
  unfold EStateM.bind
  rw [h s hs]
  cases hr : d s with
  | ok a r =>
    rw [hr] at hds
    exact hnext a r hds
  | error fault r => rfl

theorem get_bind {f g : Session → Command α} (h : ∀ s, I s → AgreeOn I (f s) (g s)) :
    AgreeOn I (get >>= f) (get >>= g) := fun s hs => h s hs s hs

theorem guarded (h : AgreeOn I c d) {s : Session} (hs : I s) : s.guarded c = s.guarded d := by
  rw [Session.guarded, h s hs]
  rfl

end AgreeOn

section Choosing

variable {I K : Session → Prop} {dialog : FileDialog} {next next' : Command Unit}

/-- What is chosen is a file. -/
theorem meets_askFile_chosen {E : Fault → Session → Prop}
    (htake : ∀ s replies, I s → I { s with script := { s.script with replies := replies } })
    (hlog : ∀ s reply, I s → I (s.logRequest dialog reply)) :
    Meets I (askFile dialog)
      (fun file? s => I s ∧ ∀ file, file? = some file → file.isNoFile = false) E := by
  intro s hs
  rw [askFile_eq]
  exact ⟨hlog _ _ (htake _ _ hs), fun file => FileChoice.hasFile_of_ofReply?⟩

theorem meets_choosing
    (htake : ∀ s replies, I s → I { s with script := { s.script with replies := replies } })
    (hlog : ∀ s reply, I s → I (s.logRequest dialog reply))
    (hfile : ∀ s file, I s → file.isNoFile = false → K { s with file := file })
    (hnext : Meets K next (fun _ => I) fun _ => I) : Preserves I (choosing dialog next) := by
  refine Meets.bind (meets_askFile_chosen htake hlog) fun file? => ?_
  cases file? with
  | none => exact meets_pure fun s hs => hs.1
  | some file =>
    exact Meets.bind (meets_modify fun s hs => hfile s file hs.1 (hs.2 file rfl)) fun _ => hnext

theorem AgreeOn.choosing
    (htake : ∀ s replies, I s → I { s with script := { s.script with replies := replies } })
    (hlog : ∀ s reply, I s → I (s.logRequest dialog reply))
    (hfile : ∀ s file, I s → file.isNoFile = false → K { s with file := file })
    (hnext : AgreeOn K next next') : AgreeOn I (choosing dialog next) (choosing dialog next') := by
  refine AgreeOn.bind (E := fun _ _ => True) (.refl _) (meets_askFile_chosen htake hlog)
    fun file? => ?_
  cases file? with
  | none => exact .refl _
  | some file =>
    refine AgreeOn.bind (E := fun _ _ => True) (.refl _) (meets_modify ?_) fun _ => hnext
    exact fun s hs => hfile s file hs.1 (hs.2 file rfl)

end Choosing

end Command

namespace Session

variable {I : Session → Prop} {press press' type : Text → Session → Session} {s : Session}

theorem attend_congr (h : KeptAtBoxes I) (hpress : ∀ keys s, I s → I (press keys s))
    (htype : ∀ t s, I s → I (type t s)) (hsame : ∀ keys s, I s → press' keys s = press keys s)
    (gestures : List Gesture) (hs : I s) :
    attend press' type gestures s = attend press type gestures s := by
  induction gestures generalizing s with
  | nil => rfl
  | cons gesture rest ih =>
    have hrest := h.gestures s rest hs
    cases gesture with
    | enterLine line => rfl
    | stop => rfl
    | press keys =>
      simp only [attend]
      rw [hsame keys _ hrest]
      exact ih (hpress keys _ hrest)
    | type text => exact ih (htype text _ hrest)

/-- A program does not see which of two functions answers to the keys, if they do the same whenever
`I` holds. -/
theorem execute_congr (h : Lasting I) (hpress : ∀ keys s, I s → I (press keys s))
    (hsame : ∀ keys s, I s → press' keys s = press keys s) (fuel : Nat) (hs : I s) :
    s.execute press' fuel = s.execute press fuel := by
  have hread (r : Session) (hr : I r) :
      (console press').readLine r = (console press).readLine r := by
    have hattend := attend_congr h.boxes hpress (fun t r hr => h.type r 0 t hr) hsame
      r.script.gestures (h.boxes.wait r hr)
    simp only [console, awaitLine, hattend]
  have hmaintains := h.upheld.console hpress
  have hmirrors : (console press').Mirrors (console press) (fun a b => a = b ∧ I b)
      fun a b => a = b ∧ I b := by
    refine ⟨⟨?_, ?_⟩, ?_⟩
    · rintro _ r ⟨rfl, -⟩
      rfl
    · rintro _ r piece ⟨rfl, hr⟩
      exact ⟨rfl, h.boxes.print _ piece hr⟩
    · rintro _ r ⟨rfl, hr⟩
      rw [hread _ hr]
      rcases hreading : (console press).readLine _ with ⟨reading, r'⟩
      have hr' : I r' := by
        cases reading with
        | line text => exact hmaintains.line hr hreading
        | interrupted => exact hmaintains.interrupted hr hreading
      refine ⟨rfl, ?_⟩
      split
      · exact ⟨rfl, hr'⟩
      · exact ⟨rfl, hr'⟩
  have halike := hmirrors.execute (s := s) (t := s) ⟨rfl, h.switches s _ hs⟩ (fun _ _ hr => hr)
    (fun a b hab => ⟨hab.1 ▸ rfl, h.switches b _ hab.2⟩) fuel (s.folder.readText s.file.name)
  simp only [execute, halike.ending, halike.console.1]

end Session

end TapeStudio
