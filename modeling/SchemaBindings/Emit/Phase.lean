/-! The passes over an ordered list of entries. -/

namespace SchemaBindings

inductive Phase where
  | collect
  | decl
  | ctor
  | impl
  deriving DecidableEq, Repr

namespace Phase

def all : List Phase :=
  [collect, decl, ctor, impl]

def next? : Phase → Option Phase
  | collect => some decl
  | decl => some ctor
  | ctor => some impl
  | impl => none

def name : Phase → String
  | collect => "collect"
  | decl => "decl"
  | ctor => "ctor"
  | impl => "impl"

def left : Phase → Nat
  | collect => 3
  | decl => 2
  | ctor => 1
  | impl => 0

theorem left_of_next {p next : Phase} (follows : p.next? = some next) : next.left < p.left := by
  cases p <;> cases follows <;> decide

def emits (p : Phase) : Bool :=
  p != collect

end Phase

end SchemaBindings
