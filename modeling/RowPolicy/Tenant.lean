import RowPolicy.Text.Blank
import RowPolicy.Text.Integer
import RowPolicy.Text.Uuid

/-!
# Tenant ids

A tenant id is a text. Where it comes from outside it passes `TenantKind.parse`, which trims it,
refuses an empty one, and holds it against the kind of id the tables use: any text, the decimal
spelling of a 64-bit integer (kept as it was written), or a UUID (written in its hyphenated
lower-case form, so that every spelling of one UUID gives one id). `TenantKind.Reads` lists what a
text is read as (`parse_ok_iff`).
-/

namespace RowPolicy

/-- The id of a tenant. -/
abbrev TenantId := String

/-- What kind of value the tenant columns hold. -/
inductive TenantKind where
  | string
  | integer
  | uuid
deriving DecidableEq, Repr

/-- Why a text is no tenant id. -/
inductive TenantFault where
  | empty
  | notInteger (text : String)
  | notUuid (text : String)
deriving DecidableEq, Repr

/-- The fault in words. Where a text is no UUID, what a reader of UUIDs finds wrong with it would
follow behind a colon; that part is left out. -/
def TenantFault.message : TenantFault → String
  | .empty => "tenant id is empty"
  | .notInteger text => "tenant id '" ++ text ++ "' is not an integer"
  | .notUuid text => "tenant id '" ++ text ++ "' is not a UUID"

namespace TenantKind

/-- The kind's name in configuration files. -/
def name : TenantKind → String
  | .string => "string"
  | .integer => "integer"
  | .uuid => "uuid"

/-- All kinds. -/
def all : List TenantKind := [.string, .integer, .uuid]

/-- Reads a tenant id of this kind. -/
def parse (kind : TenantKind) (raw : String) : Except TenantFault TenantId :=
  let text := Text.trim raw
  if text.isEmpty then .error .empty
  else
    match kind with
    | .string => .ok text
    | .integer =>
      match Text.readInt64 text with
      | some _ => .ok text
      | none => .error (.notInteger text)
    | .uuid =>
      match Text.Uuid.read text with
      | some digits => .ok (Text.Uuid.hyphenated digits)
      | none => .error (.notUuid text)

/-- What a text is read as. -/
inductive Reads : TenantKind → String → TenantId → Prop
  | string (raw : String) (filled : (Text.trim raw).isEmpty = false) :
    Reads .string raw (Text.trim raw)
  | integer (raw : String) (filled : (Text.trim raw).isEmpty = false) (n : Int64)
    (number : Text.readInt64 (Text.trim raw) = some n) : Reads .integer raw (Text.trim raw)
  | uuid (raw : String) (filled : (Text.trim raw).isEmpty = false) (digits : List Char)
    (read : Text.Uuid.read (Text.trim raw) = some digits) :
    Reads .uuid raw (Text.Uuid.hyphenated digits)

theorem parse_ok_iff {kind : TenantKind} {raw : String} {tenant : TenantId} :
    kind.parse raw = .ok tenant ↔ kind.Reads raw tenant := by
  constructor
  · intro h
    unfold parse at h
    dsimp only at h
    split at h
    next => cases h
    next hfilled =>
      have hfilled : (Text.trim raw).isEmpty = false := eq_false_of_ne_true hfilled
      cases kind with
      | string =>
        obtain rfl := Except.ok.inj h
        exact .string raw hfilled
      | integer =>
        cases hread : Text.readInt64 (Text.trim raw) with
        | none =>
          rw [hread] at h
          cases h
        | some n =>
          rw [hread] at h
          obtain rfl := Except.ok.inj h
          exact .integer raw hfilled n hread
      | uuid =>
        cases hread : Text.Uuid.read (Text.trim raw) with
        | none =>
          rw [hread] at h
          cases h
        | some digits =>
          rw [hread] at h
          obtain rfl := Except.ok.inj h
          exact .uuid raw hfilled digits hread
  · intro h
    cases h with
    | string _ filled => simp [parse, filled]
    | integer _ filled _ number => simp [parse, filled, number]
    | uuid _ filled _ read => simp [parse, filled, read]

end TenantKind

end RowPolicy
