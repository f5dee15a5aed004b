import RegistryAuth.Json.Printer
import RegistryAuth.Json.Record
import RegistryAuth.Text.Blank

/-!
# Identifiers

Clients, resources and tenants are named by identifiers: texts that are not empty, hold no white space
and are at most 512 bytes long.  Every way of making one, reading JSON included, applies the same
rule.
-/

namespace RegistryAuth

open Text (Bytes)

namespace Identifier

/-- What an identifier names. -/
inductive Kind where
  | client
  | resource
  | tenant
  deriving DecidableEq, Repr

def Kind.text : Kind → String
  | .client => "Client"
  | .resource => "Resource"
  | .tenant => "Tenant"

/-- Why a text is no identifier. -/
inductive Fault where
  | empty (kind : Kind)
  | blank (kind : Kind)
  | tooLong (kind : Kind)
  deriving DecidableEq, Repr

/-- The length of the longest identifier, in bytes. -/
def maxLength : Nat := 512

def Fault.message : Fault → String
  | .empty kind => kind.text ++ " identifier cannot be empty."
  | .blank kind => kind.text ++ " identifier contains whitespace."
  | .tooLong kind => kind.text ++ s!" identifier exceeds {maxLength} characters."

/-- What is wrong with a text, if anything. -/
def fault? (kind : Kind) (s : String) : Option Fault :=
  if s.isEmpty then some (.empty kind)
  else if s.toList.any Text.isBlank then some (.blank kind)
  else if maxLength < s.utf8ByteSize then some (.tooLong kind)
  else none

end Identifier

open Identifier in
/-- An identifier of a kind. -/
structure Identifier (kind : Kind) where
  text : String
  isSound : fault? kind text = none
  deriving DecidableEq

namespace Identifier

variable {kind : Kind}

def ofText (kind : Kind) (s : String) : Except Fault (Identifier kind) :=
  match h : fault? kind s with
  | none => .ok ⟨s, h⟩
  | some f => .error f

def parse (kind : Kind) (bs : Bytes) : Except Json.Fault (Identifier kind) :=
  Json.parseStringAs (fun s => (ofText kind s).mapError Fault.message) bs

def print (id : Identifier kind) : String :=
  (Json.string id.text).text

def shown (id : Identifier kind) : String :=
  kind.text ++ "(" ++ id.text ++ ")"

/-- The order of identifiers, which is that of their characters. -/
def order (a b : Identifier kind) : Ordering :=
  compare a.text b.text

end Identifier

abbrev ClientId := Identifier .client

abbrev ResourceId := Identifier .resource

abbrev TenantId := Identifier .tenant

end RegistryAuth
