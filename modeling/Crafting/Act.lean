import Crafting.Failure
import Crafting.Log

/-!
# Acts

An act reads and changes a state, may fail, and reports on its way. A failure keeps what was changed and reported
before it: nothing is taken back unless the act itself takes it back.
-/

namespace Crafting

/-- What came of an act: its value or the failure, the state after it, and what it reported. -/
structure Run (σ α : Type) where
  value : Except Failure α
  state : σ
  log : List Log.Entry

def Act (σ α : Type) : Type := σ → Run σ α

namespace Act

variable {σ τ α β : Type}

protected def pure (a : α) : Act σ α :=
  fun s => ⟨.ok a, s, []⟩

protected def bind (act : Act σ α) (next : α → Act σ β) : Act σ β := fun s =>
  let first := act s
  match first.value with
  | .error failure => ⟨.error failure, first.state, first.log⟩
  | .ok a =>
      let second := next a first.state
      ⟨second.value, second.state, first.log ++ second.log⟩

instance : Monad (Act σ) where
  pure := Act.pure
  bind := Act.bind

/-- Acts in a row may be grouped in any way. -/
instance : LawfulMonad (Act σ) :=
  LawfulMonad.mk' (Act σ)
    (fun act => by
      funext s
      show Act.bind act (fun a => Act.pure (id a)) s = act s
      rcases h : act s with ⟨value, state, log⟩
      cases value <;> simp [Act.bind, Act.pure, h])
    (fun a next => by
      funext s
      show Act.bind (Act.pure a) next s = next a s
      simp [Act.bind, Act.pure])
    (fun act next last => by
      funext s
      show Act.bind (Act.bind act next) last s = Act.bind act (fun a => Act.bind (next a) last) s
      rcases h : act s with ⟨value, state, log⟩
      cases value with
      | error failure => simp [Act.bind, h]
      | ok a =>
          rcases h₂ : next a state with ⟨value₂, state₂, log₂⟩
          cases value₂ <;> simp [Act.bind, h, h₂])

def fail (failure : Failure) : Act σ α :=
  fun s => ⟨.error failure, s, []⟩

/-- Reports one entry. -/
def log (entry : Log.Entry) : Act σ Unit :=
  fun s => ⟨.ok (), s, [entry]⟩

def get : Act σ σ :=
  fun s => ⟨.ok s, s, []⟩

def set (s : σ) : Act σ Unit :=
  fun _ => ⟨.ok (), s, []⟩

def modify (f : σ → σ) : Act σ Unit :=
  fun s => ⟨.ok (), f s, []⟩

def ofExcept (result : Except Failure α) : Act σ α :=
  fun s => ⟨result, s, []⟩

/-- Reports an entry whose text is written first. It is written whether or not a gate lets the entry through. -/
def report (entry : String → Log.Entry) (text : Except Failure String) : Act σ Unit := fun s =>
  match text with
  | .ok text => log (entry text) s
  | .error failure => fail failure s

/-- Runs an act and answers how it ended, so that its failure goes no further. -/
def attempt (act : Act σ α) : Act σ (Except Failure α) := fun s =>
  let run := act s
  ⟨.ok run.value, run.state, run.log⟩

/-- Runs an act on a part of the state. -/
def zoom (part : σ → τ) (put : τ → σ → σ) (act : Act τ α) : Act σ α := fun s =>
  let run := act (part s)
  ⟨run.value, put run.state s, run.log⟩

/-- Runs an act on a state of its own and answers that state too. -/
def within (start : τ) (act : Act τ α) : Act σ (α × τ) := fun s =>
  let run := act start
  ⟨run.value.map fun a => (a, run.state), s, run.log⟩

/-! ## What a run of each act is -/

@[simp] theorem run_pure (a : α) (s : σ) : (pure a : Act σ α) s = ⟨.ok a, s, []⟩ := rfl

theorem run_bind (act : Act σ α) (next : α → Act σ β) (s : σ) :
    (act >>= next) s =
      match (act s).value with
      | .error failure => ⟨.error failure, (act s).state, (act s).log⟩
      | .ok a => ⟨(next a (act s).state).value, (next a (act s).state).state, (act s).log ++ (next a (act s).state).log⟩ :=
  rfl

@[simp] theorem run_fail (failure : Failure) (s : σ) : (fail failure : Act σ α) s = ⟨.error failure, s, []⟩ := rfl

@[simp] theorem run_log (entry : Log.Entry) (s : σ) : log entry s = ⟨.ok (), s, [entry]⟩ := rfl

@[simp] theorem run_get (s : σ) : get s = ⟨.ok s, s, []⟩ := rfl

@[simp] theorem run_set (s t : σ) : set t s = ⟨.ok (), t, []⟩ := rfl

@[simp] theorem run_modify (f : σ → σ) (s : σ) : modify f s = ⟨.ok (), f s, []⟩ := rfl

@[simp] theorem run_ofExcept (result : Except Failure α) (s : σ) : ofExcept result s = ⟨result, s, []⟩ := rfl

@[simp] theorem run_report_ok (entry : String → Log.Entry) (text : String) (s : σ) :
    report entry (.ok text) s = ⟨.ok (), s, [entry text]⟩ := rfl

@[simp] theorem run_report_error (entry : String → Log.Entry) (failure : Failure) (s : σ) :
    report entry (.error failure) s = ⟨.error failure, s, []⟩ := rfl

@[simp] theorem run_attempt (act : Act σ α) (s : σ) :
    attempt act s = ⟨.ok (act s).value, (act s).state, (act s).log⟩ := rfl

@[simp] theorem run_zoom (part : σ → τ) (put : τ → σ → σ) (act : Act τ α) (s : σ) :
    zoom part put act s = ⟨(act (part s)).value, put (act (part s)).state s, (act (part s)).log⟩ := rfl

@[simp] theorem run_within (start : τ) (act : Act τ α) (s : σ) :
    within start act s = ⟨(act start).value.map fun a => (a, (act start).state), s, (act start).log⟩ := rfl

end Act

end Crafting
