import DemandFlow.Binary.Basic

/-!
Contract: the kinds of values that ports carry.

Owns: the kinds, their order, their names, and the families they form.

Does not own: the values of a kind (`Value.Basic`).
-/

namespace DemandFlow

/-- Integers of a fixed width, with or without a sign. -/
inductive IntegerKind where
  | i8
  | i16
  | i32
  | i64
  | u8
  | u16
  | u32
  | u64
deriving DecidableEq, Repr

namespace IntegerKind

def width : IntegerKind → Nat
  | .i8 | .u8 => 8
  | .i16 | .u16 => 16
  | .i32 | .u32 => 32
  | .i64 | .u64 => 64

def isSigned : IntegerKind → Bool
  | .i8 | .i16 | .i32 | .i64 => true
  | .u8 | .u16 | .u32 | .u64 => false

def least (kind : IntegerKind) : Int :=
  if kind.isSigned then -(Nat.pow 2 (kind.width - 1) : Nat) else 0

def greatest (kind : IntegerKind) : Int :=
  if kind.isSigned then (Nat.pow 2 (kind.width - 1) : Nat) - 1 else (Nat.pow 2 kind.width : Nat) - 1

end IntegerKind

inductive FloatKind where
  | single
  | double
deriving DecidableEq, Repr

def FloatKind.format : FloatKind → Format
  | .single => .single
  | .double => .double

inductive Kind where
  | bool
  | integer (kind : IntegerKind)
  | float (kind : FloatKind)
deriving DecidableEq, Repr

namespace Kind

/-- Every kind, in the order in which they are listed and registered. -/
def all : List Kind :=
  [.bool, .integer .i8, .integer .i16, .integer .i32, .integer .i64, .integer .u8, .integer .u16,
    .integer .u32, .integer .u64, .float .single, .float .double]

/-- The name that kind names of nodes are built from. -/
def name : Kind → String
  | .bool => "Bool"
  | .integer .i8 => "SByte"
  | .integer .i16 => "Short"
  | .integer .i32 => "Int"
  | .integer .i64 => "Long"
  | .integer .u8 => "Byte"
  | .integer .u16 => "UShort"
  | .integer .u32 => "UInt"
  | .integer .u64 => "ULong"
  | .float .single => "Float"
  | .float .double => "Double"

/-- The tag that stands for the kind in stored documents: its family and its width. -/
def tag : Kind → String
  | .bool => "Bool"
  | .integer .i8 => "I8"
  | .integer .i16 => "I16"
  | .integer .i32 => "I32"
  | .integer .i64 => "I64"
  | .integer .u8 => "U8"
  | .integer .u16 => "U16"
  | .integer .u32 => "U32"
  | .integer .u64 => "U64"
  | .float .single => "F32"
  | .float .double => "F64"

/-- Integers and floating-point numbers. -/
def isNumeric (kind : Kind) : Bool := kind != .bool

def isFloat : Kind → Bool
  | .float _ => true
  | _ => false

/-- Integers and truth values. -/
def isBitwise (kind : Kind) : Bool := !kind.isFloat

theorem mem_all (kind : Kind) : kind ∈ all := by
  cases kind with
  | bool => decide
  | integer kind => cases kind <;> decide
  | float kind => cases kind <;> decide

end Kind

end DemandFlow
