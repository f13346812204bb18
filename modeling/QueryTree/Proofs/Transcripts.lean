import QueryTree.Proofs.Replies

/-!
# Transcripts

A callback can be made to write down its calls, each with what it was shown and how it
ended, and that changes nothing else.  Which calls a computation makes is said by a
protocol: it is put together like the computation, and it tells which lists of calls go
with which outcome.  Where a protocol pins down how a list of calls begins, the list
tells by itself how the computation goes on.
-/

namespace QueryTree

open Traversal

variable {ν κ σ ε α β : Type}

/-- The same callback, which also writes down what it is shown and how it ends. -/
def noting (ask : ν -> Traversal σ ε α) (shown : ν) :
    Traversal (σ × List (ν × Except ε α)) ε α :=
  ExceptT.mk fun (nesting, state, calls) =>
    ((runFrom (ask shown) nesting state).1, (runFrom (ask shown) nesting state).2.1,
      (runFrom (ask shown) nesting state).2.2,
      calls ++ [(shown, (runFrom (ask shown) nesting state).1)])

/-- The end of a run, with calls beside its state. -/
def beside (run : Except ε α × Nesting × σ) (calls : List κ) :
    Except ε α × Nesting × σ × List κ :=
  (run.1, run.2.1, run.2.2, calls)

/-!
# Protocols
-/

/-- Which calls go with which outcome. -/
abbrev Protocol (κ ε α : Type) := Except ε α -> List κ -> Prop

namespace Protocol

/-- No call, and a fixed outcome. -/
def ends (result : Except ε α) : Protocol κ ε α :=
  fun outcome calls => outcome = result ∧ calls = []

/-- One call, which decides the outcome. -/
def asks (shown : ν) : Protocol (ν × Except ε α) ε α :=
  fun outcome calls => calls = [(shown, outcome)]

/-- The calls of one protocol and, if it ends with an answer, those of the next one. -/
inductive andThen (first : Protocol κ ε α) (next : α -> Protocol κ ε β) : Protocol κ ε β where
  | failed {error : ε} {calls : List κ} :
      first (.error error) calls -> andThen first next (.error error) calls
  | goesOn {x : α} {outcome : Except ε β} {calls rest : List κ} :
      first (.ok x) calls -> next x outcome rest -> andThen first next outcome (calls ++ rest)

/-- One protocol for each member of a list, in turn, until one of them fails. -/
def each (step : α -> Protocol κ ε β) : List α -> Protocol κ ε (List β)
  | [] => ends (.ok [])
  | x :: rest => andThen (step x) fun y => andThen (each step rest) fun ys => ends (.ok (y :: ys))

/-- No call at all for lack of levels, or those of a protocol. -/
def guarded [OfTreeError ε] (step : Protocol κ ε α) : Protocol κ ε α :=
  fun outcome calls =>
    step outcome calls ∨
      (exists error : TreeError, outcome = .error (OfTreeError.ofTreeError error)) ∧ calls = []

/-!
# Nodes in turn
-/

/-- Everything has been answered, in turn. -/
theorem each_asks_ok {xs : List ν} {ys : List α} {calls : List (ν × Except ε α)}
    (hcalls : each asks xs (.ok ys) calls) :
    ys.length = xs.length ∧ calls = xs.zip (ys.map .ok) := by
  induction xs generalizing ys calls with
  | nil =>
      rcases hcalls with ⟨hys, rfl⟩
      cases hys
      exact ⟨rfl, rfl⟩
  | cons x rest ih =>
      rcases hcalls with _ | ⟨rfl, hmore⟩
      rcases hmore with _ | ⟨hrest, hend, rfl⟩
      cases hend
      rcases ih hrest with ⟨hlength, rfl⟩
      refine ⟨by rw [List.length_cons, List.length_cons, hlength], ?_⟩
      rw [List.append_nil]
      rfl

/-- The first failure ends it, and is what it ends with. -/
theorem each_asks_error {xs : List ν} {error : ε} {calls : List (ν × Except ε α)}
    (hcalls : each asks xs (.error error) calls) :
    exists (before : List ν) (x : ν) (rest : List ν) (ys : List α),
      xs = before ++ x :: rest ∧ ys.length = before.length ∧
        calls = before.zip (ys.map .ok) ++ [(x, .error error)] := by
  induction xs generalizing calls with
  | nil => cases hcalls.left
  | cons x rest ih =>
      rcases hcalls with hfailed | ⟨hanswer, hmore⟩
      · exact ⟨[], x, rest, [], rfl, rfl, hfailed⟩
      · rename_i y _ _
        rcases hmore with hrest | ⟨_, hend, _⟩
        · rcases ih hrest with ⟨before, failing, after, ys, rfl, hlength, rfl⟩
          cases hanswer
          refine ⟨x :: before, failing, after, y :: ys, rfl, ?_, rfl⟩
          rw [List.length_cons, List.length_cons, hlength]
        · cases hend

theorem length_of_each {step : α -> Protocol κ ε β} {xs : List α} {ys : List β}
    {calls : List κ} (hcalls : each step xs (.ok ys) calls) : ys.length = xs.length := by
  induction xs generalizing ys calls with
  | nil =>
      cases hcalls.left
      rfl
  | cons x rest ih =>
      rcases hcalls with _ | ⟨_, hmore⟩
      rcases hmore with _ | ⟨hrest, hend, _⟩
      cases hend
      rw [List.length_cons, List.length_cons, ih hrest]

theorem forall_of_each {step : α -> Protocol κ ε β} {property : β -> Prop}
    (hstep : forall (x : α) (y : β) (calls : List κ), step x (.ok y) calls -> property y)
    {xs : List α} {ys : List β} {calls : List κ} (hcalls : each step xs (.ok ys) calls) :
    forall y : β, y ∈ ys -> property y := by
  induction xs generalizing ys calls with
  | nil =>
      cases hcalls.left
      exact nofun
  | cons x rest ih =>
      rcases hcalls with _ | ⟨hfirst, hmore⟩
      rcases hmore with _ | ⟨hrest, hend, _⟩
      cases hend
      exact List.forall_mem_cons.mpr ⟨hstep x _ _ hfirst, ih hrest⟩

theorem map_snd_zip_ok {xs : List ν} {ys : List α} (hlength : ys.length = xs.length) :
    (xs.zip (ys.map .ok)).map Prod.snd = (ys.map .ok : List (Except ε α)) := by
  apply List.map_snd_zip
  rw [List.length_map]
  exact Nat.le_of_eq hlength

theorem map_snd_of_each_asks {xs : List ν} {ys : List α} {calls : List (ν × Except ε α)}
    (hcalls : each asks xs (.ok ys) calls) : calls.map Prod.snd = ys.map .ok := by
  rcases each_asks_ok hcalls with ⟨hlength, rfl⟩
  exact map_snd_zip_ok hlength

/-!
# What a list of calls tells
-/

/-- Calls that begin like `expected` come from one outcome, and the others from what is done
after it.  Nothing is done after a failure. -/
def Pins (protocol : Protocol κ ε α) (expected : List κ) (result : Except ε α) : Prop :=
  forall (outcome : Except ε α) (calls rest more : List κ), protocol outcome calls ->
    (forall error : ε, outcome = .error error -> rest = []) ->
      calls ++ rest = expected ++ more -> outcome = result ∧ rest = more

theorem pins_ends (result : Except ε α) : Pins (ends result : Protocol κ ε α) [] result := by
  rintro outcome calls rest more ⟨rfl, rfl⟩ _hfailed hcalls
  exact ⟨rfl, hcalls⟩

theorem pins_asks (shown : ν) (result : Except ε α) :
    Pins (asks shown : Protocol (ν × Except ε α) ε α) [(shown, result)] result := by
  rintro outcome calls rest more rfl _hfailed hcalls
  cases hcalls
  exact ⟨rfl, rfl⟩

namespace Pins

variable {first : Protocol κ ε α} {next : α -> Protocol κ ε β} {expected : List κ}

theorem outcome {result outcome : Except ε α} {calls more : List κ}
    (hpins : first.Pins expected result) (hcalls : first outcome calls)
    (hall : calls = expected ++ more) : outcome = result ∧ more = [] := by
  rcases hpins outcome calls [] more hcalls (fun _ _ => rfl) (by rw [List.append_nil, hall]) with
    ⟨houtcome, hmore⟩
  exact ⟨houtcome, hmore.symm⟩

theorem andThen {x : α} {others : List κ} {result : Except ε β}
    (hfirst : first.Pins expected (.ok x)) (hnext : (next x).Pins others result) :
    (first.andThen next).Pins (expected ++ others) result := by
  intro outcome calls rest more hcalls hfailed hall
  rw [List.append_assoc] at hall
  cases hcalls with
  | failed hfirstFailed =>
      -- the calls of a failure end where the expected ones still go on to an answer
      rcases hfirst _ _ _ _ hfirstFailed (fun error _ => hfailed _ rfl) hall with ⟨hx, _⟩
      cases hx
  | goesOn hanswer hmore =>
      rw [List.append_assoc] at hall
      rcases hfirst _ _ _ _ hanswer nofun hall with ⟨hx, hall⟩
      cases hx
      exact hnext _ _ _ _ hmore hfailed hall

theorem map {x : α} (hfirst : first.Pins expected (.ok x)) (f : α -> β) :
    (first.andThen fun x => ends (.ok (f x))).Pins expected (.ok (f x)) := by
  have hend : (first.andThen fun x => ends (.ok (f x))).Pins (expected ++ []) (.ok (f x)) :=
    hfirst.andThen (pins_ends (.ok (f x)))
  rw [List.append_nil] at hend
  exact hend

theorem failed {error : ε} (hfirst : first.Pins expected (.error error)) :
    (first.andThen next).Pins expected (.error error) := by
  intro outcome calls rest more hcalls hfailed hall
  cases hcalls with
  | failed hfirstFailed =>
      rcases hfirst _ _ _ _ hfirstFailed (fun error _ => hfailed _ rfl) hall with ⟨hsame, hrest⟩
      cases hsame
      exact ⟨rfl, hrest⟩
  | goesOn hanswer _hmore =>
      rw [List.append_assoc] at hall
      rcases hfirst _ _ _ _ hanswer nofun hall with ⟨hx, _⟩
      cases hx

theorem guarded [OfTreeError ε] {result : Except ε α} (hfirst : first.Pins expected result)
    (hexpected : expected ≠ []) : first.guarded.Pins expected result := by
  rintro outcome calls rest more (hcalls | ⟨⟨error, rfl⟩, rfl⟩) hfailed hall
  · exact hfirst _ _ _ _ hcalls hfailed hall
  · -- without levels there are no calls, but some are expected
    rw [hfailed _ rfl] at hall
    exact absurd (List.append_eq_nil_iff.mp hall.symm).left hexpected

variable {step : α -> Protocol κ ε β} {x : α} {xs : List α} {others : List κ}

theorem each_cons {y : β} {ys : List β} (hfirst : (step x).Pins expected (.ok y))
    (hrest : (each step xs).Pins others (.ok ys)) :
    (each step (x :: xs)).Pins (expected ++ others) (.ok (y :: ys)) :=
  hfirst.andThen (hrest.map (y :: ·))

theorem each_failed {y : β} {error : ε} (hfirst : (step x).Pins expected (.ok y))
    (hrest : (each step xs).Pins others (.error error)) :
    (each step (x :: xs)).Pins (expected ++ others) (.error error) :=
  hfirst.andThen hrest.failed

end Pins

theorem pins_each_asks {xs : List ν} {ys : List α} (hlength : ys.length = xs.length) :
    Pins (each asks xs : Protocol (ν × Except ε α) ε (List α)) (xs.zip (ys.map .ok))
      (.ok ys) := by
  induction xs generalizing ys with
  | nil =>
      cases List.eq_nil_of_length_eq_zero hlength
      exact pins_ends (.ok [])
  | cons x xs ih =>
      cases ys with
      | nil => cases hlength
      | cons y ys => exact (pins_asks x (.ok y)).each_cons (ih (Nat.succ.inj hlength))

end Protocol

/-!
# Runs
-/

/-- However the computation is run, writing down its calls does nothing else, and the calls
follow the protocol. -/
def Transcribes (plain : Traversal σ ε α) (noted : Traversal (σ × List κ) ε α)
    (protocol : Protocol κ ε α) : Prop :=
  forall (nesting : Nesting) (state : σ), exists calls : List κ,
    protocol (runFrom plain nesting state).1 calls ∧
      forall earlier : List κ,
        runFrom noted nesting (state, earlier) =
          beside (runFrom plain nesting state) (earlier ++ calls)

theorem transcribes_ends {plain : Traversal σ ε α} {noted : Traversal (σ × List κ) ε α}
    {result : Except ε α}
    (hplain : forall (nesting : Nesting) (state : σ),
      runFrom plain nesting state = (result, nesting, state))
    (hnoted : forall (nesting : Nesting) (state : σ × List κ),
      runFrom noted nesting state = (result, nesting, state)) :
    Transcribes plain noted (.ends result) := by
  intro nesting state
  rw [hplain]
  refine ⟨[], ⟨rfl, rfl⟩, ?_⟩
  intro earlier
  rw [hnoted, List.append_nil]
  rfl

theorem transcribes_pure (x : α) :
    Transcribes (pure x : Traversal σ ε α) (pure x : Traversal (σ × List κ) ε α)
      (.ends (.ok x)) :=
  transcribes_ends (fun _ _ => rfl) (fun _ _ => rfl)

theorem transcribes_raise [OfTreeError ε] (error : TreeError) :
    Transcribes (raise error : Traversal σ ε α) (raise error : Traversal (σ × List κ) ε α)
      (.ends (.error (OfTreeError.ofTreeError error))) :=
  transcribes_ends (fun _ _ => rfl) (fun _ _ => rfl)

theorem transcribes_noting (ask : ν -> Traversal σ ε α) (shown : ν) :
    Transcribes (ask shown) (noting ask shown) (.asks shown) := by
  intro nesting state
  refine ⟨[(shown, (runFrom (ask shown) nesting state).1)], rfl, ?_⟩
  intro earlier
  rfl

namespace Transcribes

theorem bind {plain : Traversal σ ε α} {noted : Traversal (σ × List κ) ε α}
    {next : α -> Traversal σ ε β} {notedNext : α -> Traversal (σ × List κ) ε β}
    {first : Protocol κ ε α} {protocol : α -> Protocol κ ε β}
    (hfirst : Transcribes plain noted first)
    (hnext : forall x : α, Transcribes (next x) (notedNext x) (protocol x)) :
    Transcribes (plain >>= next) (noted >>= notedNext) (first.andThen protocol) := by
  intro nesting state
  rcases hfirst nesting state with ⟨calls, hcalls, hnoted⟩
  simp only [runFrom_bind, hnoted]
  revert hcalls
  rcases runFrom plain nesting state with ⟨outcome, between, during⟩
  intro hcalls
  cases outcome with
  | error error => exact ⟨calls, .failed hcalls, fun _ => rfl⟩
  | ok x =>
      rcases hnext x between during with ⟨rest, hrest, hnotedNext⟩
      refine ⟨calls ++ rest, .goesOn hcalls hrest, ?_⟩
      intro earlier
      rw [← List.append_assoc]
      exact hnotedNext (earlier ++ calls)

theorem mapM {step : α -> Traversal σ ε β} {noted : α -> Traversal (σ × List κ) ε β}
    {protocol : α -> Protocol κ ε β}
    (heach : forall x : α, Transcribes (step x) (noted x) (protocol x)) (xs : List α) :
    Transcribes (xs.mapM step) (xs.mapM noted) (.each protocol xs) := by
  induction xs with
  | nil => exact transcribes_pure []
  | cons x rest ih =>
      rw [List.mapM_cons, List.mapM_cons]
      apply Transcribes.bind (heach x)
      intro y
      apply Transcribes.bind ih
      intro ys
      exact transcribes_pure (y :: ys)

variable [OfTreeError ε]

/-- Where there is a level left, a guarded step makes the calls of the step. -/
theorem runFrom_guarded {plain : Traversal σ ε α} {noted : Traversal (σ × List κ) ε α}
    {protocol : Protocol κ ε α} (hstep : Transcribes plain noted protocol) {nesting : Nesting}
    (hroom : nesting.depth < nesting.limit) (state : σ) :
    exists calls : List κ,
      protocol (runFrom (guarded plain) nesting state).1 calls ∧
        forall earlier : List κ,
          runFrom (guarded noted) nesting (state, earlier) =
            beside (runFrom (guarded plain) nesting state) (earlier ++ calls) := by
  rcases hstep { nesting with depth := nesting.depth + 1 } state with ⟨calls, hcalls, hnoted⟩
  have hroom : nesting.depth + 1 <= nesting.limit := hroom
  simp only [Traversal.runFrom_guarded, Nesting.enter?, if_pos hroom, hnoted]
  exact ⟨calls, hcalls, fun _ => rfl⟩

theorem guarded {plain : Traversal σ ε α} {noted : Traversal (σ × List κ) ε α}
    {protocol : Protocol κ ε α} (hstep : Transcribes plain noted protocol) :
    Transcribes (guarded plain) (guarded noted) protocol.guarded := by
  intro nesting state
  by_cases hroom : nesting.depth < nesting.limit
  · rcases hstep.runFrom_guarded hroom state with ⟨calls, hcalls, hnoted⟩
    exact ⟨calls, Or.inl hcalls, hnoted⟩
  · have hnone : ¬ nesting.depth + 1 <= nesting.limit := hroom
    simp only [Traversal.runFrom_guarded, Nesting.enter?, if_neg hnone]
    refine ⟨[], Or.inr ⟨⟨_, rfl⟩, rfl⟩, ?_⟩
    intro earlier
    rw [List.append_nil]
    rfl

end Transcribes

/-!
# Walks
-/

section

variable [OfTreeError ε]

/-- To a visitor that always goes on, the walk shows just these nodes, in this order. -/
def Shows (walk : Visitor (List (Node × Nat)) ε -> Traversal (List (Node × Nat)) ε Control)
    (nesting : Nesting) (nodes : List Node) : Prop :=
  exists visits : List (Node × Nat),
    runFrom (walk Reply.chart.run) nesting [] = (.ok .proceed, nesting, visits) ∧
      visits.map Prod.fst = nodes

theorem shows_of_performs
    {walk : Visitor (List (Node × Nat)) ε -> Traversal (List (Node × Nat)) ε Control}
    {nesting : Nesting} {steps : List (Step Node)}
    (hwalk : Performs Reply.chart.run steps nesting (walk Reply.chart.run))
    (hpasses : forall step : Step Node, step ∈ steps -> step.Passes nesting.limit) :
    Shows walk nesting ((Step.shown steps).map Prod.fst) := by
  refine ⟨Step.shown steps, ?_, rfl⟩
  rw [hwalk [], replay_chart hpasses]
  rfl

theorem Performs.callbacks {callback : Visitor σ ε}
    (hcallback : forall node : Node, (callback node).Balanced) (nodes : List Node)
    (nesting : Nesting) :
    Performs callback (Step.toEach nodes nesting.depth) nesting
      (Traversal.visitAll callback nodes) := by
  have hvisits : Performs callback (nodes.flatMap fun node => [.visit node nesting.depth]) nesting
      (Traversal.visitAll callback nodes) :=
    Performs.visitAll fun node _ => performs_callback hcallback node
  rw [← List.map_eq_flatMap] at hvisits
  exact hvisits

end

theorem Step.passes_toEach {nodes : List Node} {depth limit : Nat} {step : Step Node}
    (hstep : step ∈ toEach nodes depth) : step.Passes limit := by
  rcases List.mem_map.mp hstep with ⟨node, _, rfl⟩
  exact trivial

theorem Step.map_fst_shown_toEach (nodes : List Node) (depth : Nat) :
    (shown (toEach nodes depth)).map Prod.fst = nodes := by
  induction nodes with
  | nil => rfl
  | cons node rest ih => exact congrArg (node :: ·) ih

end QueryTree
