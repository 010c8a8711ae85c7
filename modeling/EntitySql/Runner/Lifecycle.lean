import EntitySql.Schema.Registry
import EntitySql.Value.Basic

/-!
# Entity listeners and subscribers

Code outside the library can follow what the library does in two ways.

* A *listener* is a function on one entity object, run at one point of the life of the entities
  of one type (its subtypes included): before an insert, after a load, and so on. It may change
  the object, and its failure fails the operation.
* A *subscriber* is told about every statement (before and after it runs), every transaction
  step (before and after a start, commit or rollback, with the depth of the level), and every
  entity at every point of its life. It may be limited to the entities of one type and its
  subtypes. Any of these may fail; the first failure stops the others and fails the operation.

A broadcaster holds the listeners and subscribers of a data source, in the order they were
added. For an entity it runs the matching listeners first, each on the result of the one
before, then the subscribers on the result.
-/

namespace EntitySql

/-- The points of an entity's life at which listeners and subscribers run. -/
inductive ListenerKind where
  | beforeInsert
  | afterInsert
  | beforeUpdate
  | afterUpdate
  | beforeRemove
  | afterRemove
  | beforeSoftRemove
  | afterSoftRemove
  | beforeRecover
  | afterRecover
  | afterLoad
  deriving DecidableEq, Repr, Inhabited

namespace ListenerKind

def all : List ListenerKind :=
  [beforeInsert, afterInsert, beforeUpdate, afterUpdate, beforeRemove, afterRemove,
    beforeSoftRemove, afterSoftRemove, beforeRecover, afterRecover, afterLoad]

/-- The name of a point, in camel case with a capital. -/
def name : ListenerKind → String
  | beforeInsert => "BeforeInsert"
  | afterInsert => "AfterInsert"
  | beforeUpdate => "BeforeUpdate"
  | afterUpdate => "AfterUpdate"
  | beforeRemove => "BeforeRemove"
  | afterRemove => "AfterRemove"
  | beforeSoftRemove => "BeforeSoftRemove"
  | afterSoftRemove => "AfterSoftRemove"
  | beforeRecover => "BeforeRecover"
  | afterRecover => "AfterRecover"
  | afterLoad => "AfterLoad"

/-- The name of a point as subscribers are told it, in snake case. -/
def eventName : ListenerKind → String
  | beforeInsert => "before_insert"
  | afterInsert => "after_insert"
  | beforeUpdate => "before_update"
  | afterUpdate => "after_update"
  | beforeRemove => "before_remove"
  | afterRemove => "after_remove"
  | beforeSoftRemove => "before_soft_remove"
  | afterSoftRemove => "after_soft_remove"
  | beforeRecover => "before_recover"
  | afterRecover => "after_recover"
  | afterLoad => "after_load"

def ofName? (s : String) : Option ListenerKind := all.find? (·.name = s)

end ListenerKind

/-- Before or after a statement runs. -/
inductive QueryPoint where
  | before
  | after
  deriving DecidableEq, Repr, Inhabited

def QueryPoint.eventName : QueryPoint → String
  | .before => "before_query"
  | .after => "after_query"

/-- The points of a transaction step. -/
inductive TransactionPoint where
  | beforeStart
  | afterStart
  | beforeCommit
  | afterCommit
  | beforeRollback
  | afterRollback
  deriving DecidableEq, Repr, Inhabited

/-- The name of a transaction point as subscribers are told it. -/
def TransactionPoint.eventName : TransactionPoint → String
  | .beforeStart => "before_transaction_start"
  | .afterStart => "after_transaction_start"
  | .beforeCommit => "before_transaction_commit"
  | .afterCommit => "after_transaction_commit"
  | .beforeRollback => "before_transaction_rollback"
  | .afterRollback => "after_transaction_rollback"

/-- A statement as subscribers see it: the text sent, its parameters, and after a failed run
the text of the failure. -/
structure QueryEvent where
  sql : String
  params : List Value
  error : Option String := none
  deriving Inhabited

/-- A subscriber: what it is limited to, and what it does at each point. -/
structure Subscriber where
  listenTo : Option String := none
  onQuery : QueryPoint → QueryEvent → OrmResult Unit := fun _ _ => .ok ()
  /-- Told the depth of the level started, committed or rolled back. -/
  onTransaction : TransactionPoint → Nat → OrmResult Unit := fun _ _ => .ok ()
  onEntity : ListenerKind → Fields → OrmResult Unit := fun _ _ => .ok ()

instance : Inhabited Subscriber := ⟨{}⟩

/-- A listener: the entity type, the point, and the function. -/
structure Listener where
  entity : String
  kind : ListenerKind
  run : Fields → OrmResult Fields

/-- The listeners and subscribers of a data source, over its entities. -/
structure Broadcaster where
  registry : Registry
  subscribers : List Subscriber := []
  listeners : List Listener := []

namespace Broadcaster

def hasSubscribers (b : Broadcaster) : Bool := !b.subscribers.isEmpty

def query (b : Broadcaster) (p : QueryPoint) (e : QueryEvent) : OrmResult Unit :=
  b.subscribers.forM fun s => s.onQuery p e

def transaction (b : Broadcaster) (p : TransactionPoint) (depth : Nat) : OrmResult Unit :=
  b.subscribers.forM fun s => s.onTransaction p depth

/-- Whether a subscriber follows the entities of a type. -/
def follows (b : Broadcaster) (s : Subscriber) (entity : String) : Bool :=
  match s.listenTo with
  | some target => b.registry.isSubtypeOf entity target
  | none => true

def listenersOf (b : Broadcaster) (kind : ListenerKind) (entity : String) : List Listener :=
  b.listeners.filter fun l => l.kind = kind ∧ b.registry.isSubtypeOf entity l.entity

/-- Run one point for one entity object of a type: the listeners in order, then the
subscribers that follow the type. -/
def entity (b : Broadcaster) (kind : ListenerKind) (entity : String) (obj : Fields) :
    OrmResult Fields := do
  let obj ← (b.listenersOf kind entity).foldlM (fun o l => l.run o) obj
  (b.subscribers.filter fun s => b.follows s entity).forM fun s => s.onEntity kind obj
  pure obj

def all (b : Broadcaster) (kind : ListenerKind) (entity : String) (objs : List Fields) :
    OrmResult (List Fields) :=
  objs.mapM (b.entity kind entity)

/-- With no listener and no subscriber, an entity passes unchanged. -/
theorem entity_empty (r : Registry) (kind : ListenerKind) (e : String) (obj : Fields) :
    ({ registry := r } : Broadcaster).entity kind e obj = .ok obj := rfl

end Broadcaster

end EntitySql
