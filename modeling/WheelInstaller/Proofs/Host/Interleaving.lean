import Mathlib.Data.Fin.Tuple.Basic
import Mathlib.Logic.Function.Basic
import WheelInstaller.Proofs.Host.Rules

/-! Programs that take turns on one host, in any order. If each of them keeps to its own part of what the host holds, it
does in company what it does alone. -/

namespace WheelInstaller.Host

variable {σ ι κ α β ε : Type} {count : Nat}

/-- Workers take turns: one of them makes its next request, and goes on with the answer. -/
inductive Interleaved (respond : (request : Request) → σ → request.Answer × σ) :
    (Fin count → Program α) → σ → (Fin count → Program α) → σ → Prop where
  | refl (workers : Fin count → Program α) (state : σ) : Interleaved respond workers state workers state
  | turn {workers left : Fin count → Program α} {state after : σ} (worker : Fin count) {request : Request}
      {next : request.Answer → Program α} (asks : workers worker = .ask request next)
      (further : Interleaved respond (Function.update workers worker (next (respond request state).1))
        (respond request state).2 left after) :
      Interleaved respond workers state left after

namespace Interleaved

variable {respond : (request : Request) → σ → request.Answer × σ} {workers middle left : Fin count → Program α}
  {state between after : σ}

theorem trans (turns : Interleaved respond workers state middle between)
    (further : Interleaved respond middle between left after) :
    Interleaved respond workers state left after := by
  induction turns with
  | refl => exact further
  | turn worker asks _ ih => exact .turn worker asks (ih further)

theorem of_run (workers : Fin count → Program α) (worker : Fin count) (state : σ) :
    Interleaved respond workers state (Function.update workers worker (.done ((workers worker).run respond state).1))
      ((workers worker).run respond state).2 := by
  generalize same : workers worker = program
  induction program generalizing workers state with
  | done value =>
    rw [show Program.done ((Program.done value).run respond state).1 = workers worker from same.symm,
      Function.update_eq_self]
    exact .refl workers state
  | ask request next ih =>
    have further := ih (respond request state).1 (Function.update workers worker (next (respond request state).1))
      (respond request state).2 (Function.update_self worker _ workers)
    rw [Function.update_idem] at further
    exact .turn worker same further

theorem cons (turns : Interleaved respond workers state left after) (first : Program α) :
    Interleaved respond (Fin.cons first workers : Fin (count + 1) → Program α) state (Fin.cons first left) after := by
  induction turns with
  | refl => exact .refl _ _
  | @turn workers left state after worker request next asks _ ih =>
    rw [Fin.cons_update] at ih
    exact .turn worker.succ (by rwa [Fin.cons_succ]) ih

theorem keeps {handle : Path → OpenFile → Prop} {allowed : Request → Prop} (invariant : σ → Prop)
    (turns : Interleaved respond workers state left after)
    (asks : ∀ worker, Asks handle allowed (fun _ => True) (workers worker))
    (step : ∀ request now, allowed request → invariant now →
      Honest handle request (respond request now).1 ∧ invariant (respond request now).2)
    (holds : invariant state) : invariant after := by
  induction turns with
  | refl => exact holds
  | @turn workers left state after turned request next asked _ ih =>
    have asking := asked ▸ asks turned
    obtain ⟨honest, still⟩ := step request state asking.1 holds
    refine ih (fun worker => ?_) still
    by_cases same : worker = turned
    · subst same
      rw [Function.update_self]
      exact asking.2 _ () honest
    · rw [Function.update_of_ne same]
      exact asks worker

end Interleaved

/-- A host that holds something at many places. What may be asked for in the name of some places depends on these alone,
and changes nothing elsewhere. -/
structure Separation (σ ι κ : Type) where
  respond : (request : Request) → σ → request.Answer × σ
  look : σ → ι → κ
  valid : σ → Prop
  permits : (ι → Prop) → Request → Prop
  keeps : ∀ {own request state}, permits own request → valid state →
    valid (respond request state).2 ∧ ∀ place, ¬ own place → look (respond request state).2 place = look state place
  same : ∀ {own request state other}, permits own request → valid state → valid other →
    (∀ place, own place → look other place = look state place) →
    (respond request other).1 = (respond request state).1 ∧
      ∀ place, own place → look (respond request other).2 place = look (respond request state).2 place

namespace Separation

variable (host : Separation σ ι κ)

/-- What may be asked for in the name of some places, answered in any valid state. -/
def rules (own : ι → Prop) : Rules Unit where
  replies request _ answer _ := ∃ state, host.valid state ∧ answer = (host.respond request state).1
  permits request _ := host.permits own request

/-- The program asks for nothing but in the name of some places. -/
def Confined (own : ι → Prop) (program : Program α) : Prop :=
  (host.rules own).Safe (fun _ _ => True) program ()

variable {host} {own : ι → Prop} {program : Program α} {state other : σ}

theorem Confined.answered {request : Request} {next : request.Answer → Program α}
    (confined : host.Confined own (.ask request next)) (valid : host.valid state) :
    host.Confined own (next (host.respond request state).1) :=
  confined.2 _ () ⟨state, valid, rfl⟩

theorem Confined.keeps (confined : host.Confined own program) (valid : host.valid state) :
    host.valid (program.run host.respond state).2 ∧
      ∀ place, ¬ own place → host.look (program.run host.respond state).2 place = host.look state place := by
  induction program generalizing state with
  | done value => exact ⟨valid, fun _ _ => rfl⟩
  | ask request next ih =>
    obtain ⟨still, apart⟩ := host.keeps confined.1 valid
    obtain ⟨last, further⟩ := ih _ (confined.answered valid) still
    exact ⟨last, fun place outside => (further place outside).trans (apart place outside)⟩

theorem Confined.same (confined : host.Confined own program) (valid : host.valid state) (also : host.valid other)
    (agree : ∀ place, own place → host.look other place = host.look state place) :
    (program.run host.respond other).1 = (program.run host.respond state).1 ∧
      ∀ place, own place →
        host.look (program.run host.respond other).2 place = host.look (program.run host.respond state).2 place := by
  induction program generalizing state other with
  | done value => exact ⟨rfl, agree⟩
  | ask request next ih =>
    obtain ⟨answer, further⟩ := host.same confined.1 valid also agree
    have run (now : σ) : (Program.ask request next).run host.respond now =
        (next (host.respond request now).1).run host.respond (host.respond request now).2 := rfl
    rw [run, run, answer]
    exact ih _ (confined.answered valid) (host.keeps confined.1 valid).1 (host.keeps confined.1 also).1 further

end Separation

theorem Interleaved.alone {host : Separation σ ι κ} {workers left : Fin count → Program α} {state after : σ}
    (own : Fin count → ι → Prop) (turns : Interleaved host.respond workers state left after) (valid : host.valid state)
    (confined : ∀ worker, host.Confined (own worker) (workers worker))
    (apart : ∀ worker another, worker ≠ another → ∀ place, own worker place → ¬ own another place) :
    (∀ place, (∀ worker, ¬ own worker place) → host.look after place = host.look state place) ∧
      ∀ worker, ((left worker).run host.respond after).1 = ((workers worker).run host.respond state).1 ∧
        ∀ place, own worker place → host.look ((left worker).run host.respond after).2 place =
          host.look ((workers worker).run host.respond state).2 place := by
  induction turns with
  | refl => exact ⟨fun _ _ => rfl, fun _ => ⟨rfl, fun _ _ => rfl⟩⟩
  | @turn workers left state after turned request next asks further ih =>
    have asking := asks ▸ confined turned
    obtain ⟨still, outside⟩ := host.keeps asking.1 valid
    obtain ⟨elsewhere, ends⟩ := ih still fun worker => by
      by_cases same : worker = turned
      · subst same
        rw [Function.update_self]
        exact asking.answered valid
      · rw [Function.update_of_ne same]
        exact confined worker
    refine ⟨fun place free => (elsewhere place free).trans (outside place (free turned)), fun worker => ?_⟩
    by_cases same : worker = turned
    · subst same
      have ended := ends worker
      rw [Function.update_self] at ended
      rw [asks]
      exact ended
    · -- The turn of another worker leaves the places of this one as they are.
      obtain ⟨outcome, places⟩ := ends worker
      rw [Function.update_of_ne same] at outcome places
      obtain ⟨before, held⟩ := (confined worker).same valid still fun place mine =>
        outside place (apart worker turned same place mine)
      exact ⟨outcome.trans before, fun place mine => (places place mine).trans (held place mine)⟩

end WheelInstaller.Host
