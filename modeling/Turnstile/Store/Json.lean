/-
# Rows and store settings as JSON

How the settings of a store and a single row are read.  The settings that are left out are
as built in.
-/
import Turnstile.Json.Record
import Turnstile.Store.Rows

namespace Turnstile

open Json

/-- How the settings of a store are read. -/
def StoreSettings.schema : Schema StoreSettings where
  name := "MemoryStoreConfig"
  blank := {}
  fields :=
    [(field "lock_timeout" readCount fun s n => { s with lockTimeout := n }).orBlank,
     (field "max_items_per_owner" readSize fun s n => { s with maxItems := n }).orBlank]

/-- Reads a row key. -/
def Uuid.read : Reader Uuid := fun cs => do
  let (s, rest) ← readTextAs "a formatted UUID string" cs
  match Uuid.ofText s with
  | .ok u => return (u, rest)
  | .error f => throw (.malformed ("UUID parsing failed: " ++ f.message))

/-- How rows are read. -/
def Item.schema : Schema Item where
  name := "OrderedItem"
  blank := ⟨0, ⟨0⟩, "", "", 0⟩
  fields :=
    [field "id" readSigned fun i n => { i with id := n },
     field "key" Uuid.read fun i k => { i with key := k },
     field "owner" readText fun i s => { i with owner := s },
     field "name" readText fun i s => { i with name := s },
     field "order" readSigned fun i n => { i with order := n }]

/-- The store settings that a JSON text gives. -/
def StoreSettings.ofText (s : String) : Except Fault StoreSettings := readWhole schema.read s

/-- The row that a JSON text gives. -/
def Item.ofText (s : String) : Except Fault Item := readWhole schema.read s

end Turnstile
