import BlockSheet.Decimal.Digits

/-!
# Events

What happens on the side while styles are bound, identities are given out and stylesheets are
collected. Functions that can report something answer `Logged` values: a result together with its
events, in the order in which they happened.
-/

namespace BlockSheet

/-- Something worth a line in the log. -/
inductive Event
  /-- A rechecked block holds an id that another block holds too. -/
  | idShared (clientId id : String)
  /-- A block holds an id that an earlier block of the document keeps. -/
  | idRepeated (clientId id : String)
  /-- No draw gave a free id, and the last candidate is used. -/
  | budgetExhausted (budget : Nat) (clientId id : String)
  /-- A block whose type derives no styles any more still held some. -/
  | stylesLost (clientId : String)
  /-- A block gets new styles or a new identity. -/
  | stylesChanged (clientId : String)
  /-- A block type took the place of another one of the same name. -/
  | typeReplaced (name : String)
  /-- The content was collected before in the same request. -/
  | contentRepeated
  /-- A reusable block is not in the library. -/
  | reusableMissing (reference : Nat)
  deriving DecidableEq

namespace Event

/-- Is the event a warning? Only the loss of uniqueness is. -/
def isWarning : Event → Bool
  | budgetExhausted .. => true
  | _ => false

def message : Event → String
  | idShared clientId id =>
    "block " ++ clientId ++ " shares id '" ++ id ++ "' with another instance, redrawing"
  | idRepeated clientId id =>
    "block " ++ clientId ++ " repeats id '" ++ id ++ "' of an earlier block, redrawing"
  | budgetExhausted budget clientId id =>
    "id retry budget (" ++ toString budget ++ ") exhausted for block " ++ clientId ++
      ", keeping colliding id '" ++ id ++ "'"
  | stylesLost clientId => "block " ++ clientId ++ " lost its styles, clearing"
  | stylesChanged clientId => "block " ++ clientId ++ " styles changed"
  | typeReplaced name => "block type '" ++ name ++ "' re-registered, using latest definition"
  | contentRepeated => "content already collected in this request, skipping"
  | reusableMissing reference => "reusable block " ++ toString reference ++ " not found"

/-- The line of an event in the log. -/
def line (event : Event) : String :=
  (if event.isWarning then "warn: " else "debug: ") ++ event.message

end Event

/-- A result with the events on the way to it. -/
structure Logged (α : Type) where
  value : α
  events : List Event

namespace Logged

/-- A result on the way to which nothing happened. -/
def pure {α : Type} (value : α) : Logged α := ⟨value, []⟩

/-- Go on from a result; the events of the second part follow those of the first. -/
def bind {α β : Type} (x : Logged α) (f : α → Logged β) : Logged β :=
  ⟨(f x.value).value, x.events ++ (f x.value).events⟩

/-- Change the result alone. -/
def map {α β : Type} (f : α → β) (x : Logged α) : Logged β := ⟨f x.value, x.events⟩

/-- Put an event in front. -/
def after {α : Type} (event : Event) (x : Logged α) : Logged α := ⟨x.value, event :: x.events⟩

@[simp] theorem value_pure {α : Type} (value : α) : (pure value).value = value := rfl
@[simp] theorem events_pure {α : Type} (value : α) : (pure value).events = [] := rfl
@[simp] theorem value_bind {α β : Type} (x : Logged α) (f : α → Logged β) :
    (x.bind f).value = (f x.value).value := rfl
@[simp] theorem events_bind {α β : Type} (x : Logged α) (f : α → Logged β) :
    (x.bind f).events = x.events ++ (f x.value).events := rfl
@[simp] theorem value_map {α β : Type} (f : α → β) (x : Logged α) :
    (x.map f).value = f x.value := rfl
@[simp] theorem events_map {α β : Type} (f : α → β) (x : Logged α) :
    (x.map f).events = x.events := rfl
@[simp] theorem value_after {α : Type} (event : Event) (x : Logged α) :
    (x.after event).value = x.value := rfl
@[simp] theorem events_after {α : Type} (event : Event) (x : Logged α) :
    (x.after event).events = event :: x.events := rfl

end Logged

end BlockSheet
