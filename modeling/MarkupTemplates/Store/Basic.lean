import MarkupTemplates.Notice
import MarkupTemplates.Template.Include
import MarkupTemplates.Text.Blank

/-!
# Stores of templates

A store keeps the templates registered with it in their order, and an index of them by id: for each
id its definition, that is a root or copy, and its layers in the order in which they apply.  Layers
apply by ascending priority, those of one priority in the order of registration.

`registerAll` registers a batch of templates, all or none.  `generation` counts the batches.
-/

namespace MarkupTemplates

/-- Why templates cannot be registered or found. -/
inductive StoreError where
  /-- There is a definition of this id. -/
  | duplicate (id : String)
  /-- There is no definition of this id. -/
  | notFound (id : String)
  /-- The id is blank. -/
  | blankId
  /-- A layer has another id than the template it edits. -/
  | misplacedLayer (id target : String)
deriving DecidableEq, Repr

/-- The error in words. -/
def StoreError.message : StoreError → String
  | .duplicate id => "duplicate template definition: " ++ id
  | .notFound id => "template not found: " ++ id
  | .blankId => "template id must not be empty"
  | .misplacedLayer id target => "in-place template '" ++ id ++ "' cannot extend '" ++ target ++ "'"

/-- The receipt for a registered template. -/
structure Handle where
  /-- The id of the template. -/
  id : String
  /-- Its position among all templates registered. -/
  sequence : Nat
  /-- Its mode. -/
  mode? : Option Mode
deriving DecidableEq, Repr

/-- What a store holds under one id. -/
structure Slot where
  /-- The id. -/
  id : String
  /-- The root or copy of the id. -/
  definition? : Option Template := none
  /-- The layers of the id, in the order in which they apply. -/
  layers : List Template := []
deriving Repr

/-- The layers with one more, behind those of the same or a lower priority. -/
def insertLayer (t : Template) : List Template → List Template
  | [] => [t]
  | u :: us => if t.priority < u.priority then t :: u :: us else u :: insertLayer t us

/-- The slot with one more template. -/
def Slot.add (t : Template) (slot : Slot) : Slot :=
  if t.isLayer then { slot with layers := insertLayer t slot.layers }
  else { slot with definition? := some t }

/-- The slots with one more template; a new id goes to the end. -/
def addToSlots (t : Template) : List Slot → List Slot
  | [] => [Slot.add t ⟨t.id, none, []⟩]
  | slot :: slots => if slot.id = t.id then slot.add t :: slots else slot :: addToSlots t slots

/-- The templates registered, and what they are found by. -/
structure Store where
  /-- The templates in the order of registration. -/
  templates : List Template := []
  /-- The index by id, in the order in which the ids first came. -/
  slots : List Slot := []
  /-- The number of batches registered. -/
  generation : Nat := 0
deriving Repr

namespace Store

/-- The store without templates. -/
def empty : Store := {}

/-! ### Looking up -/

/-- What the store holds under an id. -/
def slot? (s : Store) (id : String) : Option Slot := s.slots.find? (·.id == id)

/-- The definition of an id. -/
def definition? (s : Store) (id : String) : Option Template := (s.slot? id).bind (·.definition?)

/-- The definition of an id, or the error that there is none. -/
def get (s : Store) (id : String) : Except StoreError Template :=
  match s.definition? id with
  | some t => .ok t
  | none => .error (.notFound id)

/-- Whether an id has a definition. -/
def contains (s : Store) (id : String) : Bool := (s.definition? id).isSome

/-- The layers of an id, in the order in which they apply. -/
def layers (s : Store) (id : String) : List Template :=
  match s.slot? id with
  | some slot => slot.layers
  | none => []

/-- Whether an id has layers. -/
def hasLayers (s : Store) (id : String) : Bool := !(s.layers id).isEmpty

/-- The ids in the order in which they first came. -/
def ids (s : Store) : List String := s.slots.map (·.id)

/-- The number of templates. -/
def size (s : Store) : Nat := s.templates.length

/-- Whether there are no templates. -/
def isEmpty (s : Store) : Bool := s.templates.isEmpty

/-! ### Registering -/

/-- The store with one more template, in the batch that is being registered. -/
def add (s : Store) (t : Template) : Store :=
  { s with templates := s.templates ++ [t], slots := addToSlots t s.slots }

/-- The receipt for a template that is registered next. -/
def handle (s : Store) (t : Template) : Handle := ⟨t.id, s.size, t.mode?⟩

/-- Whether a template is a layer that shares its priority with a layer of the same id. -/
def sharesPriority (s : Store) (t : Template) : Bool :=
  t.isLayer && (s.layers t.id).any (·.priority == t.priority)

/-- The notices for a template that is registered next. -/
def noticesFor (s : Store) (t : Template) : List Notice :=
  (if s.sharesPriority t then [.sharedPriority t.id t.priority] else []) ++
    [.registered t.id t.mode?]

/-- Why a template cannot be registered, if `taken` are the ids defined earlier in its batch. -/
def refusal? (s : Store) (taken : List String) (t : Template) : Option StoreError :=
  if Text.isBlankText t.id then some .blankId
  else
    match t.layered? with
    | some target => if target = t.id then none else some (.misplacedLayer t.id target)
    | none => if s.contains t.id || taken.contains t.id then some (.duplicate t.id) else none

/-- The first reason why a batch cannot be registered. -/
def checkBatch (s : Store) (taken : List String) : List Template → Except StoreError Unit
  | [] => .ok ()
  | t :: ts =>
    match s.refusal? taken t with
    | some e => .error e
    | none => checkBatch s (if t.isLayer then taken else t.id :: taken) ts

/-- The store after a batch, with the receipts and notices for it. -/
def addAll (s : Store) : List Template → Store × Noted (List Handle)
  | [] => (s, ⟨[], []⟩)
  | t :: ts =>
    let (after, rest) := addAll (s.add t) ts
    (after, ⟨s.handle t :: rest.value, s.noticesFor t ++ rest.notices⟩)

/-- Registers a batch of templates, all or none. -/
def registerAll (s : Store) (ts : List Template) :
    Except StoreError (Store × Noted (List Handle)) :=
  match s.checkBatch [] ts with
  | .error e => .error e
  | .ok () =>
    if ts.isEmpty then .ok (s, ⟨[], []⟩)
    else
      let (after, handles) := s.addAll ts
      .ok ({ after with generation := s.generation + 1 }, handles)

end Store

end MarkupTemplates
