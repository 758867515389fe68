import Mathlib.Data.List.Chain
import TreeAssist.Tree.Assembly

/-!
# The steps of a shape

A parser announces an ordered tree by its pre-order: a leaf is one step, a group is opened, its
children are announced in order, and it is closed.

The module introduces:

* `Shape.steps` — the steps that announce a shape. No other shape has the same steps
  (`Shape.steps_injective`), not even as the beginning of a longer sequence
  (`Shape.steps_append_inj`).
* `Shape.Lawful` — no span is inverted, children lie inside their parent, and each child starts
  where the one in front of it ends or later.
* `kindsOf` — the names that a sequence of steps uses, in order.
-/

namespace TreeAssist

namespace Shape

/-- Induction over a shape: a group may assume the statement for all its children. -/
@[elab_as_elim]
theorem inductionOn {motive : Shape → Prop} (s : Shape)
    (leaf : ∀ name span, motive (.leaf name span))
    (group : ∀ name span children, (∀ c ∈ children, motive c) →
      motive (.group name span children)) : motive s := by
  refine @Shape.rec motive (fun l => ∀ c ∈ l, motive c) leaf group ?_ ?_ s
  · simp
  · intro c cs hc hcs
    exact List.forall_mem_cons.mpr ⟨hc, hcs⟩

/-! ### Linearisation -/

mutual

/-- The steps that announce the tree. -/
def steps : Shape → List Step
  | leaf name span => [.leaf name span]
  | group name span children =>
    .opens name span.start :: (stepsAll children ++ [.closes span.stop])

/-- The steps that announce the given trees, one after the other. -/
def stepsAll : List Shape → List Step
  | [] => []
  | s :: rest => s.steps ++ stepsAll rest

end

/-- The steps of several trees are those of each, in order. -/
theorem stepsAll_eq_flatMap (l : List Shape) : stepsAll l = l.flatMap steps := by
  induction l with
  | nil => rfl
  | cons s rest ih => simp [stepsAll, ih]

/-- Announcing two lists of trees one after the other announces their concatenation. -/
theorem stepsAll_append (l l' : List Shape) :
    stepsAll (l ++ l') = stepsAll l ++ stepsAll l' := by
  simp [stepsAll_eq_flatMap]

/-- A tree is never announced by closing something first. -/
theorem steps_append_ne_closes (s : Shape) (r r' : List Step) (stop : Nat) :
    s.steps ++ r ≠ .closes stop :: r' := by
  cases s <;> simp [steps]

/-- The steps of a list of trees end at the closing step of their parent, so they can be read off a
longer sequence, if the steps of each member can. -/
private theorem stepsAll_closes_inj {l : List Shape}
    (ih : ∀ c ∈ l, ∀ (s : Shape) (r r' : List Step), c.steps ++ r = s.steps ++ r' → c = s ∧ r = r')
    {l' : List Shape} {stop stop' : Nat} {r r' : List Step}
    (h : stepsAll l ++ .closes stop :: r = stepsAll l' ++ .closes stop' :: r') :
    l = l' ∧ stop = stop' ∧ r = r' := by
  -- Where one list has ended and the other has not, a closing step would announce a tree.
  induction l generalizing l' with
  | nil =>
    cases l' with
    | nil => simpa [stepsAll] using h
    | cons c' l' =>
      rw [stepsAll, stepsAll, List.append_assoc] at h
      exact absurd h.symm (steps_append_ne_closes c' _ _ _)
  | cons c l ihl =>
    cases l' with
    | nil =>
      rw [stepsAll, stepsAll, List.append_assoc] at h
      exact absurd h (steps_append_ne_closes c _ _ _)
    | cons c' l' =>
      rw [stepsAll, stepsAll, List.append_assoc, List.append_assoc] at h
      obtain ⟨rfl, hrest⟩ := ih c (by simp) c' _ _ h
      obtain ⟨rfl, hstop, hr⟩ := ihl (fun d hd => ih d (by simp [hd])) hrest
      exact ⟨rfl, hstop, hr⟩

/-- A tree can be read off the front of any sequence that begins with its steps. -/
theorem steps_append_inj (s s' : Shape) (r r' : List Step)
    (h : s.steps ++ r = s'.steps ++ r') : s = s' ∧ r = r' := by
  induction s using inductionOn generalizing s' r r' with
  | leaf name span =>
    cases s' with
    | leaf name' span' => simpa [steps, and_assoc] using h
    | group name' span' children' => simp [steps] at h
  | group name span children ih =>
    cases s' with
    | leaf name' span' => simp [steps] at h
    | group name' span' children' =>
      simp only [steps, List.cons_append, List.append_assoc, List.nil_append, List.cons.injEq,
        Step.opens.injEq] at h
      -- The opening step has the start of the span, and the closing step has its end.
      obtain ⟨⟨rfl, hstart⟩, hrest⟩ := h
      obtain ⟨rfl, hstop, rfl⟩ := stepsAll_closes_inj ih hrest
      obtain rfl : span = span' := by
        cases span
        cases span'
        simp_all
      exact ⟨rfl, rfl⟩

/-- Different trees have different steps. -/
theorem steps_injective {s s' : Shape} (h : s.steps = s'.steps) : s = s' :=
  (steps_append_inj s s' [] [] (by simpa using h)).1

/-! ### The law of spans -/

/-- No span in the tree is inverted, children lie inside their parent, and each child starts at or
behind the end of the child in front of it. -/
inductive Lawful : Shape → Prop
  | leaf {name : String} {span : Span} (ordered : span.start ≤ span.stop) :
      Lawful (.leaf name span)
  | group {name : String} {span : Span} {children : List Shape}
      (ordered : span.start ≤ span.stop)
      (inside : ∀ c ∈ children, span.start ≤ c.span.start ∧ c.span.stop ≤ span.stop)
      (apart : children.IsChain fun c d => c.span.stop ≤ d.span.start)
      (below : ∀ c ∈ children, c.Lawful) : Lawful (.group name span children)

/-- The topmost node of a lawful tree does not end before it starts. -/
theorem Lawful.start_le_stop {s : Shape} (h : s.Lawful) : s.span.start ≤ s.span.stop := by
  cases h with
  | leaf ordered => exact ordered
  | group ordered => exact ordered

end Shape

/-! ### Names in use -/

/-- The name that a step uses; closing a node uses none. -/
def Step.kind? : Step → Option String
  | .opens kind _ => some kind
  | .leaf kind _ => some kind
  | .closes _ => none

/-- The names that the steps use, one for each node, in order. -/
def kindsOf (steps : List Step) : List String :=
  steps.filterMap Step.kind?

@[simp]
theorem kindsOf_nil : kindsOf [] = [] := rfl

@[simp]
theorem kindsOf_opens (kind : String) (start : Nat) (steps : List Step) :
    kindsOf (.opens kind start :: steps) = kind :: kindsOf steps := rfl

@[simp]
theorem kindsOf_leaf (kind : String) (span : Span) (steps : List Step) :
    kindsOf (.leaf kind span :: steps) = kind :: kindsOf steps := rfl

@[simp]
theorem kindsOf_closes (stop : Nat) (steps : List Step) :
    kindsOf (.closes stop :: steps) = kindsOf steps := rfl

@[simp]
theorem kindsOf_append (steps steps' : List Step) :
    kindsOf (steps ++ steps') = kindsOf steps ++ kindsOf steps' := by
  simp [kindsOf]

namespace Shape

/-- Counting continues from the number that it was given. -/
theorem countAll_eq_add (count : Nat) (l : List Shape) :
    countAll count l = count + countAll 0 l := by
  induction l generalizing count with
  | nil => simp [countAll]
  | cons s rest ih =>
    rw [countAll, countAll, ih, ih (0 + 1 + s.descendants)]
    omega

/-- A list has the nodes of its first tree and those of the others. -/
theorem countAll_cons (s : Shape) (rest : List Shape) :
    countAll 0 (s :: rest) = 1 + s.descendants + countAll 0 rest := by
  rw [countAll, countAll_eq_add, Nat.zero_add]

/-- One name is used for each node. -/
theorem length_kindsOf_steps (s : Shape) : (kindsOf s.steps).length = 1 + s.descendants := by
  induction s using inductionOn with
  | leaf name span => rfl
  | group name span children ih =>
    -- The nodes below the topmost one, child by child.
    have hall : ∀ l : List Shape, (∀ c ∈ l, (kindsOf c.steps).length = 1 + c.descendants) →
        (kindsOf (stepsAll l)).length = countAll 0 l := by
      intro l hl
      induction l with
      | nil => rfl
      | cons c rest ihl =>
        rw [stepsAll, kindsOf_append, List.length_append, hl c (by simp),
          ihl fun d hd => hl d (by simp [hd]), countAll_cons]
    simp [steps, descendants, hall children ih, Nat.add_comm]

end Shape

end TreeAssist
