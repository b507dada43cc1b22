/-
Deterministic machines with outputs: a step function `σ → ι → ο × σ` run over a list of inputs.

The module is generic: states, inputs and outputs are arbitrary types and the step function is a variable. It gives
- `final`, `outputs`, `trace`: the last state of a run, its outputs, and the (state, input) pairs it visits;
- `final_inv`: what every step keeps, every run keeps;
- `Unwinds.run`: noninterference from one step, over two runs whose inputs look the same;
- `Simulates.run`: two machines on the same inputs answer alike and stay related, from one step of each;
- `segments_rel_iff`: the segments of a run follow a preorder on states exactly when its steps do;
- `prune`: the inputs left when every step whose output is refused is deleted. If refused steps leave the state alone
  (`Inert`), deleting them changes neither the other outputs nor the final state (`prune_final`, `prune_outputs`);
- `withHistory`: the machine run beside a history variable (a ghost state that the step does not read), with the
  projection theorem `withHistory_final`;
- `Embeds`: a machine that keeps another one inside and steps it on inputs of its own choice. Its runs are runs of the
  inner machine on those inputs (`Embeds.final`, `Embeds.outputs`).
-/
import Mathlib.Tactic

namespace AstraFsw.Machine

variable {σ ι ο γ : Type*} (step : σ → ι → ο × σ)

/-! ## Runs -/

/-- the state after a list of inputs -/
def final (s : σ) (is : List ι) : σ := is.foldl (fun s i => (step s i).2) s

/-- the outputs of a run, one for each input -/
def outputs : σ → List ι → List ο
  | _, [] => []
  | s, i :: is => (step s i).1 :: outputs (step s i).2 is

/-- the (state before, input) pairs of a run -/
def trace : σ → List ι → List (σ × ι)
  | _, [] => []
  | s, i :: is => (s, i) :: trace (step s i).2 is

@[simp] theorem final_nil (s : σ) : final step s [] = s := rfl

@[simp] theorem final_cons (s : σ) (i : ι) (is : List ι) : final step s (i :: is) = final step (step s i).2 is := rfl

theorem final_append (s : σ) (is js : List ι) : final step s (is ++ js) = final step (final step s is) js := by
  simp [final, List.foldl_append]

theorem final_snoc (s : σ) (is : List ι) (i : ι) : final step s (is ++ [i]) = (step (final step s is) i).2 := by
  simp [final_append]

/-- a run on translated inputs -/
theorem final_map {κ : Type*} (f : κ → ι) (s : σ) (ks : List κ) :
    final step s (ks.map f) = final (fun s k => step s (f k)) s ks := List.foldl_map

@[simp] theorem outputs_nil (s : σ) : outputs step s [] = [] := rfl

@[simp] theorem outputs_cons (s : σ) (i : ι) (is : List ι) :
    outputs step s (i :: is) = (step s i).1 :: outputs step (step s i).2 is := rfl

theorem outputs_append (s : σ) (is js : List ι) :
    outputs step s (is ++ js) = outputs step s is ++ outputs step (final step s is) js := by
  induction is generalizing s with
  | nil => rfl
  | cons i is ih => simp [ih]

theorem outputs_snoc (s : σ) (is : List ι) (i : ι) :
    outputs step s (is ++ [i]) = outputs step s is ++ [(step (final step s is) i).1] := by
  simp [outputs_append]

@[simp] theorem length_outputs (s : σ) (is : List ι) : (outputs step s is).length = is.length := by
  induction is generalizing s with
  | nil => rfl
  | cons i is ih => simp [ih]

/-- a pair is visited exactly when the inputs split around it -/
theorem mem_trace {s : σ} {is : List ι} {e : σ × ι} :
    e ∈ trace step s is ↔ ∃ pre post, is = pre ++ e.2 :: post ∧ final step s pre = e.1 := by
  induction is generalizing s with
  | nil => simp [trace]
  | cons i is ih =>
    simp only [trace, List.mem_cons, ih]
    constructor
    · rintro (rfl | ⟨pre, post, rfl, h⟩)
      · exact ⟨[], is, rfl, rfl⟩
      · exact ⟨i :: pre, post, rfl, h⟩
    · rintro ⟨pre, post, h, hf⟩
      cases pre with
      | nil =>
        obtain ⟨rfl, -⟩ := List.cons.inj h
        exact Or.inl (Prod.ext hf.symm rfl)
      | cons j pre =>
        obtain ⟨rfl, rfl⟩ := List.cons.inj h
        exact Or.inr ⟨pre, post, rfl, hf⟩

theorem outputs_eq_map_trace (s : σ) (is : List ι) :
    outputs step s is = (trace step s is).map fun e => (step e.1 e.2).1 := by
  induction is generalizing s with
  | nil => rfl
  | cons i is ih => simp [trace, ih]

/-- an output is the output of a visited pair -/
theorem mem_outputs {s : σ} {is : List ι} {o : ο} :
    o ∈ outputs step s is ↔ ∃ pre i post, is = pre ++ i :: post ∧ (step (final step s pre) i).1 = o := by
  rw [outputs_eq_map_trace, List.mem_map]
  constructor
  · intro h
    obtain ⟨e, he, ho⟩ := h
    obtain ⟨pre, post, hsplit, hpre⟩ := (mem_trace step).1 he
    exact ⟨pre, e.2, post, hsplit, by rw [hpre, ho]⟩
  · intro h
    obtain ⟨pre, i, post, hsplit, ho⟩ := h
    exact ⟨(final step s pre, i), (mem_trace step).2 ⟨pre, post, hsplit, rfl⟩, ho⟩

@[simp] theorem trace_nil (s : σ) : trace step s [] = [] := rfl

@[simp] theorem trace_cons (s : σ) (i : ι) (is : List ι) :
    trace step s (i :: is) = (s, i) :: trace step (step s i).2 is := rfl

theorem trace_append (s : σ) (is js : List ι) :
    trace step s (is ++ js) = trace step s is ++ trace step (final step s is) js := by
  induction is generalizing s with
  | nil => rfl
  | cons i is ih => simp [ih]

/-! ## Invariants -/

/-- **Invariant rule.** What every step keeps, every run keeps. -/
theorem final_inv {P : σ → Prop} (hstep : ∀ s i, P s → P (step s i).2) {s : σ} (h : P s) (is : List ι) :
    P (final step s is) := by
  induction is generalizing s with
  | nil => exact h
  | cons i is ih => exact ih (hstep s i h)

/-- what no step of the run changes is the same at its end -/
theorem final_view {ρ : Type*} {view : σ → ρ} {is : List ι} (h : ∀ i ∈ is, ∀ s, view (step s i).2 = view s) (s : σ) :
    view (final step s is) = view s := by
  induction is generalizing s with
  | nil => rfl
  | cons i is ih =>
    rw [final_cons, ih (fun j hj => h j (List.mem_cons_of_mem _ hj)), h i List.mem_cons_self]

/-! ## Preorders along a run -/

section Preorder

variable {R : σ → σ → Prop} (hrefl : ∀ s, R s s) (htrans : ∀ a b c, R a b → R b c → R a c)
include hrefl htrans

/-- a preorder that every step follows relates the ends of the run -/
theorem final_rel_of_trace (s : σ) (is : List ι) (h : ∀ e ∈ trace step s is, R e.1 (step e.1 e.2).2) :
    R s (final step s is) := by
  induction is generalizing s with
  | nil => exact hrefl s
  | cons i is ih =>
    refine htrans _ _ _ (h (s, i) List.mem_cons_self) (ih _ fun e he => h e ?_)
    exact List.mem_cons_of_mem _ he

/-- **Preorder rule.** All segments of a run made of allowed steps follow a preorder exactly when all its allowed steps
do. -/
theorem segments_rel_iff {A : σ → ι → Prop} (s : σ) (is : List ι) :
    (∀ pre mid post, is = pre ++ mid ++ post → (∀ e ∈ trace step (final step s pre) mid, A e.1 e.2) →
      R (final step s pre) (final step s (pre ++ mid))) ↔
    ∀ e ∈ trace step s is, A e.1 e.2 → R e.1 (step e.1 e.2).2 := by
  constructor
  · rintro h ⟨t, i⟩ he hA
    obtain ⟨pre, post, rfl, rfl⟩ := (mem_trace step).1 he
    have hseg := h pre [i] post (by simp) (by simpa using hA)
    rwa [final_snoc] at hseg
  · rintro h pre mid post rfl hA
    rw [final_append]
    refine final_rel_of_trace step hrefl htrans _ mid fun e he => h e ?_ (hA e he)
    rw [trace_append, trace_append]
    simp [he]

end Preorder

/-! ## Noninterference -/

section Unwinding

variable {ρ κ ω : Type*} {view : σ → ρ} {low : ι → κ} {see : ο → ω}

/-- the observed part of the state and of the output after a step depends on the observed part of the state and of the
input only -/
def Unwinds (view : σ → ρ) (low : ι → κ) (see : ο → ω) : Prop :=
  ∀ s s' i i', view s = view s' → low i = low i' →
    see (step s i).1 = see (step s' i').1 ∧ view (step s i).2 = view (step s' i').2

/-- **Unwinding.** Two runs on inputs that look the same give outputs and a final state that look the same. -/
theorem Unwinds.run {step : σ → ι → ο × σ} (h : Unwinds step view low see) {s s' : σ} (hs : view s = view s')
    {is is' : List ι} (his : is.map low = is'.map low) :
    (outputs step s is).map see = (outputs step s' is').map see ∧
      view (final step s is) = view (final step s' is') := by
  induction is generalizing s s' is' with
  | nil =>
    rw [List.map_nil, eq_comm, List.map_eq_nil_iff] at his
    rw [his]
    exact ⟨rfl, hs⟩
  | cons i is ih =>
    cases is' with
    | nil => exact absurd his (by simp)
    | cons i' is' =>
      obtain ⟨hi, hrest⟩ := List.cons.inj his
      obtain ⟨hsee, hview⟩ := h s s' i i' hs hi
      obtain ⟨houtputs, hfinal⟩ := ih hview hrest
      refine ⟨?_, hfinal⟩
      rw [outputs_cons, outputs_cons, List.map_cons, List.map_cons, hsee, houtputs]

end Unwinding

/-! ## Simulation -/

/-- what a step leaves allowed after it is allowed along the run, if the inputs follow one another as they must -/
theorem allowed_of_isChain {allowed : σ → ι → Prop} {next : ι → ι → Prop}
    (hstep : ∀ s i j, allowed s i → next i j → allowed (step s i).2 j) {s : σ} {is : List ι} (hchain : is.IsChain next)
    (hhead : ∀ i ∈ is.head?, allowed s i) : ∀ e ∈ trace step s is, allowed e.1 e.2 := by
  induction is generalizing s with
  | nil => simp
  | cons i is ih =>
    have hi := hhead i rfl
    intro e he
    rcases List.mem_cons.1 he with rfl | he
    · exact hi
    · refine ih hchain.tail (fun j hj => hstep s i j hi ?_) e he
      cases is with
      | nil => cases hj
      | cons k is =>
        obtain rfl : k = j := Option.some.inj hj
        exact (List.isChain_cons_cons.1 hchain).1

section Simulation

variable {σ' ο' : Type*} (step' : σ' → ι → ο' × σ')

/-- on an input the second machine allows, related states answer alike and stay related -/
def Simulates (R : σ → σ' → Prop) (allowed : σ' → ι → Prop) (same : ο → ο' → Prop) : Prop :=
  ∀ s s' i, R s s' → allowed s' i → same (step s i).1 (step' s' i).1 ∧ R (step s i).2 (step' s' i).2

variable {step step'} {R : σ → σ' → Prop} {allowed : σ' → ι → Prop} {same : ο → ο' → Prop} {s : σ} {s' : σ'}
  {is : List ι}

theorem Simulates.final (h : Simulates step step' R allowed same) (hs : R s s')
    (hallowed : ∀ e ∈ trace step' s' is, allowed e.1 e.2) :
    R (Machine.final step s is) (Machine.final step' s' is) := by
  induction is generalizing s s' with
  | nil => exact hs
  | cons i is ih =>
    have hi := h s s' i hs (hallowed (s', i) List.mem_cons_self)
    exact ih hi.2 fun e he => hallowed e (List.mem_cons_of_mem _ he)

/-- **Simulation.** After every input of the run, the answers are alike and the states related. -/
theorem Simulates.run (h : Simulates step step' R allowed same) (hs : R s s')
    (hallowed : ∀ e ∈ trace step' s' is, allowed e.1 e.2) (pre : List ι) (i : ι) (post : List ι)
    (hsplit : is = pre ++ i :: post) :
    same (step (Machine.final step s pre) i).1 (step' (Machine.final step' s' pre) i).1 ∧
      R (Machine.final step s (pre ++ [i])) (Machine.final step' s' (pre ++ [i])) := by
  subst hsplit
  rw [trace_append] at hallowed
  have hpre : R (Machine.final step s pre) (Machine.final step' s' pre) :=
    h.final hs fun e he => hallowed e (List.mem_append_left _ he)
  have hi : allowed (Machine.final step' s' pre) i :=
    hallowed (_, i) (List.mem_append_right _ List.mem_cons_self)
  rw [final_snoc, final_snoc]
  exact h _ _ i hpre hi

end Simulation

/-! ## Deleting refused steps -/

/-- steps whose output is refused leave the state alone -/
def Inert (refused : ο → Bool) : Prop := ∀ s i, refused (step s i).1 = true → (step s i).2 = s

/-- the inputs whose outputs, in this run, are not refused -/
def prune (refused : ο → Bool) : σ → List ι → List ι
  | _, [] => []
  | s, i :: is =>
    if refused (step s i).1 then prune refused (step s i).2 is else i :: prune refused (step s i).2 is

theorem prune_final {refused : ο → Bool} (h : Inert step refused) (s : σ) (is : List ι) :
    final step s (prune step refused s is) = final step s is := by
  induction is generalizing s with
  | nil => rfl
  | cons i is ih =>
    cases hr : refused (step s i).1 with
    | true =>
      have hs := h s i hr
      simp only [prune, hr, if_true, final_cons, hs]
      exact ih s
    | false => simp [prune, hr, ih]

theorem prune_outputs {refused : ο → Bool} (h : Inert step refused) (s : σ) (is : List ι) :
    outputs step s (prune step refused s is) = (outputs step s is).filter (fun o => !refused o) := by
  induction is generalizing s with
  | nil => rfl
  | cons i is ih =>
    cases hr : refused (step s i).1 with
    | true =>
      have hs := h s i hr
      simp only [prune, hr, if_true, outputs_cons, hs, List.filter_cons, Bool.not_true, Bool.false_eq_true, if_false]
      exact ih s
    | false => simp [prune, hr, ih]

/-! ## History variables -/

/-- the machine beside a ghost state, updated from the state and input of each step -/
def withHistory (upd : γ → σ → ι → γ) (sg : σ × γ) (i : ι) : ο × (σ × γ) :=
  ((step sg.1 i).1, ((step sg.1 i).2, upd sg.2 sg.1 i))

/-- the ghost state at the end of a run -/
def history (upd : γ → σ → ι → γ) (s : σ) (g : γ) (is : List ι) : γ := (final (withHistory step upd) (s, g) is).2

/-- the machine component of the paired run is the machine's own run -/
theorem withHistory_final (upd : γ → σ → ι → γ) (s : σ) (g : γ) (is : List ι) :
    final (withHistory step upd) (s, g) is = (final step s is, history step upd s g is) := by
  refine Prod.ext ?_ rfl
  induction is generalizing s g with
  | nil => rfl
  | cons i is ih => exact ih (step s i).2 (upd g s i)

@[simp] theorem history_nil (upd : γ → σ → ι → γ) (s : σ) (g : γ) : history step upd s g [] = g := rfl

theorem history_append (upd : γ → σ → ι → γ) (s : σ) (g : γ) (is js : List ι) :
    history step upd s g (is ++ js) = history step upd (final step s is) (history step upd s g is) js := by
  change (final (withHistory step upd) (s, g) (is ++ js)).2 = _
  rw [final_append, withHistory_final step upd s g is]
  rfl

theorem history_snoc (upd : γ → σ → ι → γ) (s : σ) (g : γ) (is : List ι) (i : ι) :
    history step upd s g (is ++ [i]) = upd (history step upd s g is) (final step s is) i := by
  rw [history_append]; rfl

/-- **Invariant rule with history.** A relation between state and ghost that every step keeps holds at the end of
every run. -/
theorem history_inv {upd : γ → σ → ι → γ} {P : σ → γ → Prop}
    (hstep : ∀ s g i, P s g → P (step s i).2 (upd g s i)) {s : σ} {g : γ} (h : P s g) (is : List ι) :
    P (final step s is) (history step upd s g is) := by
  have hrun := final_inv (withHistory step upd) (P := fun sg => P sg.1 sg.2) (fun sg i => hstep sg.1 sg.2 i)
    (s := (s, g)) h is
  rwa [withHistory_final] at hrun

/-! ## Embedded machines -/

section Embedded

variable {σ' ι' ο' : Type*} (step' : σ' → ι' → ο' × σ')

/-- on the states in `P`, a step runs the inner machine on a list of its inputs and reports those results -/
structure Embeds (P : σ → Prop) (inner : σ → σ') (calls : σ → ι → List ι') (reports : ο → List ο') : Prop where
  keeps : ∀ s i, P s → P (step s i).2
  state : ∀ s i, P s → inner (step s i).2 = final step' (inner s) (calls s i)
  results : ∀ s i, P s → reports (step s i).1 = outputs step' (inner s) (calls s i)

/-- the inputs of the inner machine over a run -/
def innerInputs (calls : σ → ι → List ι') (s : σ) (is : List ι) : List ι' :=
  (trace step s is).flatMap fun e => calls e.1 e.2

/-- inner inputs chosen by a test on the outer ones are the outer ones that pass it -/
theorem innerInputs_filter (p : ι → Bool) (s : σ) (is : List ι) :
    innerInputs step (fun _ i => if p i then [i] else []) s is = is.filter p := by
  induction is generalizing s with
  | nil => rfl
  | cons i is ih =>
    have hcons : innerInputs step (fun _ i => if p i then [i] else []) s (i :: is) =
        (if p i then [i] else []) ++ innerInputs step (fun _ i => if p i then [i] else []) (step s i).2 is := rfl
    rw [hcons, ih]
    cases hp : p i <;> simp [hp]

variable {step step'} {P : σ → Prop} {inner : σ → σ'} {calls : σ → ι → List ι'} {reports : ο → List ο'}

theorem Embeds.final (h : Embeds step step' P inner calls reports) {s : σ} (hs : P s) (is : List ι) :
    inner (final step s is) = Machine.final step' (inner s) (innerInputs step calls s is) := by
  induction is generalizing s with
  | nil => rfl
  | cons i is ih =>
    have hrest := ih (h.keeps s i hs)
    rw [h.state s i hs] at hrest
    rw [innerInputs, trace_cons, List.flatMap_cons, final_append]
    exact hrest

theorem Embeds.outputs (h : Embeds step step' P inner calls reports) {s : σ} (hs : P s) (is : List ι) :
    (outputs step s is).flatMap reports = Machine.outputs step' (inner s) (innerInputs step calls s is) := by
  induction is generalizing s with
  | nil => rfl
  | cons i is ih =>
    have hrest := ih (h.keeps s i hs)
    rw [h.state s i hs] at hrest
    rw [outputs_cons, List.flatMap_cons, h.results s i hs, hrest]
    exact (outputs_append step' _ _ _).symm

end Embedded

end AstraFsw.Machine
