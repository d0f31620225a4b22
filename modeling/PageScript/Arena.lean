import Mathlib.Algebra.Order.Ring.GeomSum
import PageScript.Document

/-!
# Arenas

How the elements of a document are stored: side by side, each at the index that is its number, with the index of its
parent and those of its children. A new element goes to the end. One that is taken out stays where it is, but it leaves
the list of its parent, and neither it nor anything below it is attached any more.

Links go up to smaller indices and down to larger ones, and no child is listed twice. Every operation keeps that, so
that it is part of what an arena is, and so all loops over links come to an end.
-/
namespace PageScript

/-- An element with its links. -/
structure Slot where
  node : Node
  parent : Option Nat := none
  children : List Nat := []
  attached : Bool := true

/-- The links of the slot at an index of an arena of a size. -/
structure Slot.Linked (index size : Nat) (s : Slot) : Prop where
  parent_lt : ∀ parent, s.parent = some parent → parent < index
  lt_child : ∀ child ∈ s.children, index < child
  child_lt : ∀ child ∈ s.children, child < size
  nodup : s.children.Nodup

structure Arena where
  slots : Array Slot := #[]
  onKey : List (Nat × List Effect) := []
  preventDefault : List Nat := []
  localStorage : List (String × String) := []
  activations : List Nat := []
  keyDowns : List Nat := []
  linked : ∀ index (s : Slot), slots[index]? = some s → s.Linked index slots.size

namespace Arena

variable (a : Arena)

def size : Nat := a.slots.size

def parentOf (index : Nat) : Option Nat := a.slots[index]?.bind Slot.parent

def childrenOf (index : Nat) : List Nat := (a.slots[index]?.map Slot.children).getD []

theorem parentOf_lt {index parent : Nat} (h : a.parentOf index = some parent) : parent < index := by
  obtain ⟨s, hs, hp⟩ := Option.bind_eq_some_iff.mp h
  exact (a.linked index s hs).parent_lt parent hp

/-! ## Loops over links -/

/-- The elements above one, from its parent up. -/
def ancestors (index : Nat) : List Nat :=
  match _ : a.parentOf index with
  | none => []
  | some parent => parent :: ancestors parent
termination_by index
decreasing_by exact a.parentOf_lt ‹_›

/-- What a walk still has before it, at most. An element weighs more than its children together. -/
def weight (stack : List Nat) : Nat := (stack.map fun index => 2 ^ (a.size - index)).sum

@[simp] theorem weight_append (stack later : List Nat) :
    a.weight (stack ++ later) = a.weight stack + a.weight later := by
  simp [weight]

@[simp] theorem weight_reverse (stack : List Nat) : a.weight stack.reverse = a.weight stack := by
  simp [weight, List.sum_reverse]

theorem weight_childrenOf (index : Nat) (stack : List Nat) :
    a.weight (a.childrenOf index ++ stack) < a.weight (index :: stack) := by
  suffices h : a.weight (a.childrenOf index) < 2 ^ (a.size - index) by simpa [weight] using h
  unfold childrenOf
  cases hs : a.slots[index]? with
  | none => exact Nat.two_pow_pos _
  | some s =>
    have hl := a.linked index s hs
    have hlt : ∀ child ∈ s.children, index < child ∧ child < a.size :=
      fun child hc => ⟨hl.lt_child child hc, hl.child_lt child hc⟩
    have hinj : ∀ child ∈ s.children, ∀ other ∈ s.children, a.size - child = a.size - other → child = other := by
      intro child hc other ho heq
      have := hlt child hc
      have := hlt other ho
      omega
    have hsum := List.sum_toFinset (fun k => 2 ^ k) (hl.nodup.map_on hinj)
    rw [List.map_map] at hsum
    calc a.weight s.children
      _ = ∑ k ∈ (s.children.map (a.size - ·)).toFinset, 2 ^ k := hsum.symm
      _ < 2 ^ (a.size - index) := by
        refine Nat.geomSum_lt le_rfl fun k hk => ?_
        obtain ⟨child, hc, rfl⟩ := List.mem_map.mp (List.mem_toFinset.mp hk)
        have := hlt child hc
        omega

/-- Takes one element after another from a stack and puts its children there instead. The elements are met in document
order. -/
def visit (stack : List Nat) : List Nat :=
  match stack with
  | [] => []
  | index :: stack => index :: visit (a.childrenOf index ++ stack)
termination_by a.weight stack
decreasing_by exact a.weight_childrenOf index stack

def descendants (index : Nat) : List Nat := a.visit (a.childrenOf index)

/-- The attached elements in document order. -/
def all : List Nat := 0 :: a.descendants 0

/-! ## Changes of slots -/

/-- Changes the slot at an index. -/
def modify (index : Nat) (change : Slot → Slot)
    (h : ∀ s, s.Linked index a.size → (change s).Linked index a.size) : Arena :=
  { a with
    slots := a.slots.modify index change
    linked := by
      intro other s hs
      rw [Array.getElem?_modify] at hs
      rw [Array.size_modify]
      split at hs
      · obtain ⟨s', hs', rfl⟩ := Option.map_eq_some_iff.mp hs
        rename_i heq
        subst heq
        exact h s' (a.linked index s' hs')
      · exact a.linked other s hs }

@[simp] theorem size_modify (index : Nat) (change : Slot → Slot) (h) : (a.modify index change h).size = a.size := by
  simp [modify, size]

def update (index : Nat) (change : Node → Node) : Arena :=
  a.modify index (fun s => { s with node := change s.node }) fun _ h => ⟨h.1, h.2, h.3, h.4⟩

/-- Puts a new element at the end, behind the children of a parent. There is no element without one that exists. -/
def push (parent : Nat) (node : Node) : Arena :=
  if h : parent < a.size then
    { a with
      slots := (a.slots.modify parent fun s => { s with children := s.children ++ [a.size] }).push
        { node, parent := some parent }
      linked := by
        intro index s hs
        rw [Array.getElem?_push, Array.size_modify, Array.getElem?_modify] at hs
        rw [Array.size_push, Array.size_modify]
        have hnew := Nat.lt_succ_self a.slots.size
        split at hs
        · cases hs
          subst index
          exact ⟨by simpa [size] using h, by simp, by simp, List.nodup_nil⟩
        · split at hs
          · obtain ⟨s', hs', rfl⟩ := Option.map_eq_some_iff.mp hs
            subst index
            have hl := a.linked parent s' hs'
            refine ⟨hl.parent_lt, ?_, ?_, ?_⟩
            · exact List.forall_mem_append.mpr ⟨hl.lt_child, by simpa using h⟩
            · exact List.forall_mem_append.mpr ⟨fun c hc => (hl.child_lt c hc).trans hnew, by simp [size]⟩
            · exact List.nodup_append.mpr ⟨hl.nodup, by simp, fun c hc d hd => by
                have := hl.child_lt c hc
                simp only [List.mem_singleton, size] at hd
                omega⟩
          · have hl := a.linked index s hs
            exact ⟨hl.parent_lt, hl.lt_child, fun c hc => (hl.child_lt c hc).trans hnew, hl.nodup⟩ }
  else a

mutual

/-- Puts a new element and all that is below it behind the children of a parent, in document order. -/
def insert (a : Arena) (parent : Nat) : Element → Arena
  | { tag, id, className, value, text, attrs, children, onClick } =>
    insertAll (a.push parent (.ofElement a.size { tag, id, className, value, text, attrs, onClick })) a.size children

def insertAll (a : Arena) (parent : Nat) : List Element → Arena
  | [] => a
  | element :: elements => insertAll (a.insert parent element) parent elements

end

/-- Takes an element out of the list of its parent. -/
def cut (index : Nat) : Arena :=
  match a.parentOf index with
  | none => a
  | some parent =>
    (a.modify index (fun s => { s with parent := none }) fun _ h => ⟨nofun, h.2, h.3, h.4⟩).modify parent
      (fun s => { s with children := s.children.filter (· ≠ index) })
      fun _ h => ⟨h.1, fun c hc => h.2 c (List.mem_of_mem_filter hc), fun c hc => h.3 c (List.mem_of_mem_filter hc),
        h.4.filter _⟩

def unset (index : Nat) : Arena :=
  a.modify index (fun s => { s with attached := false }) fun _ h => ⟨h.1, h.2, h.3, h.4⟩

/-- Takes one element after another from a stack, marks it as not attached, and puts its children there. -/
def drop (a : Arena) (stack : List Nat) : Arena :=
  match stack with
  | [] => a
  | index :: stack => drop (a.unset index) ((a.childrenOf index).reverse ++ stack)
termination_by a.weight stack
decreasing_by
  have hsize (stack : List Nat) : (a.unset index).weight stack = a.weight stack := by simp [weight, unset]
  simpa [hsize] using a.weight_childrenOf index stack

def detach (index : Nat) : Arena := (a.cut index).drop [index]

/-! ## Selectors -/

def meets (compound : Compound) (index : Nat) : Bool := a.slots[index]?.any fun s => compound.accepts s.node

/-- Whether the elements above one fit compounds read from right to left. -/
def fits : List (Combinator × Compound) → Nat → Bool
  | [], _ => true
  | (.child, compound) :: links, index =>
    (a.parentOf index).any fun parent => a.meets compound parent && fits links parent
  | (.descendant, compound) :: links, index =>
    (a.ancestors index).any fun above => a.meets compound above && fits links above

def accepts (s : Selector) (index : Nat) : Bool := a.meets s.backwards.1 index && a.fits s.backwards.2 index

def selectAll (selector : String) : Except Fault (List Nat) :=
  (Selector.parse selector).map fun s => a.all.filter (a.accepts s)

def selectFirst (selector : String) : Except Fault (Option Nat) :=
  (Selector.parse selector).map fun s => a.all.find? (a.accepts s)

/-! ## Requests -/

def slot (number : Nat) : Except Fault Slot :=
  match a.slots[number]?.filter Slot.attached with
  | some s => .ok s
  | none => .error (.staleElement number)

def value (number : Nat) : Except Fault String := (a.slot number).map (·.node.value)

def text (number : Nat) : Except Fault String := (a.slot number).map (·.node.text)

def classNames (number : Nat) : Except Fault (List String) := (a.slot number).map (·.node.classes)

def attr (number : Nat) (name : String) : Except Fault (Option String) :=
  (a.slot number).map (·.node.attrs.lookup name)

def parent (number : Nat) : Except Fault (Option Nat) := (a.slot number).map Slot.parent

def children (number : Nat) : Except Fault (List Nat) := (a.slot number).map Slot.children

/-- Whether an element has a tag. Letter case does not count in ASCII tags. -/
def hasTag (tag : String) (index : Nat) : Bool :=
  a.slots[index]?.any fun s => Text.asciiLowercase s.node.tag == Text.asciiLowercase tag

def elementsByTag (number : Nat) (tag : String) : Except Fault (List Nat) :=
  (a.slot number).map fun _ => (a.descendants number).filter (a.hasTag tag)

/-! ## Operations -/

def bare : Arena where
  slots := #[{ node := { number := 0, tag := "body" } }]
  linked := by
    intro index s hs
    obtain ⟨hi, rfl⟩ := Array.getElem?_eq_some_iff.mp hs
    obtain rfl : index = 0 := by simpa using hi
    exact ⟨nofun, by simp, by simp, List.nodup_nil⟩

def ofPage (p : Page) : Arena :=
  { insertAll bare 0 p.body with
    onKey := p.onKey
    preventDefault := p.preventDefault
    localStorage := p.localStorage }

def setValue (number : Nat) (value : String) : Except Fault Arena :=
  (a.slot number).map fun _ => a.update number ({ · with value })

/-- Puts a new element behind the children of the first match of a selector; answers its number. -/
def append (selector : String) (element : Element) : Except Fault (Nat × Arena) := do
  match ← a.selectFirst selector with
  | some target => return (a.size, a.insert target element)
  | none => throw (.driver s!"no element matches {selector}")

def change (target : Nat) : Change → Except Fault Arena
  | .setValue value => .ok (a.update target ({ · with value }))
  | .setText text => .ok (a.update target ({ · with text }))
  | .addClass token =>
    .ok (a.update target fun n =>
      if n.classes.contains token then n else { n with classes := n.classes ++ [token] })
  | .removeClass token =>
    .ok (a.update target fun n => { n with classes := n.classes.filter (· != token) })
  | .append element => .ok (a.insert target element)
  | .remove => if target = 0 then .error (.driver "cannot remove the document body") else .ok (a.detach target)

/-- Applies an effect without regard to its delay. -/
def apply (e : Effect) : Except Fault (Option Arena) := do
  match ← a.selectFirst e.target with
  | none => return none
  | some target => return some (← a.change target e.change)

def activate (number : Nat) : Except Fault (List Effect × Arena) :=
  (a.slot number).map fun s => (s.node.onClick, { a with activations := a.activations ++ [number] })

def keyDown (code : Nat) : List Effect × Arena :=
  ((a.onKey.lookup code).getD [], { a with keyDowns := a.keyDowns ++ [code] })

def clearLocalStorage : Arena := { a with localStorage := [] }

end Arena

end PageScript
