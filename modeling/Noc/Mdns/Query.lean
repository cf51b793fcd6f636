import Mathlib.Data.List.TakeWhile
import Noc.Mdns.Strings

/-!
# Writing names and queries

`mdns_string_make` of `lib/mdns/mdns.h` with its table of the strings written
before, and `mdns_multiquery_send`.  A buffer is a list of bytes; there is no
result when a byte outside of it is read or written.
-/

namespace Noc
namespace Mdns

open Foundation.Wire

/-- `memcpy` into a buffer. -/
def writeAt (buffer : Bytes) (offset : Nat) (bytes : Bytes) : Option Bytes :=
  if offset + bytes.length <= buffer.length then
    some (buffer.take offset ++ bytes ++ buffer.drop (offset + bytes.length))
  else none

/-!
## The table of strings
-/

def tableCapacity : Nat := 16

/-- `mdns_string_table_t`. -/
structure StringTable where
  offset : List Nat := List.replicate tableCapacity 0
  count : Nat := 0
  next : Nat := 0

def mdnsStringTableAdd (table : StringTable) (offset : Nat) : StringTable where
  offset := table.offset.set table.next offset
  count := min (table.count + 1) tableCapacity
  next := if tableCapacity <= table.next + 1 then 0 else table.next + 1

def dot : UInt8 := 0x2e

/-- The text up to the next dot. -/
def firstLabel (text : Bytes) : Bytes :=
  text.takeWhile fun byte => byte != dot

/-- The text behind the next dot. -/
def behindLabel (text : Bytes) : Bytes :=
  (text.dropWhile fun byte => byte != dot).drop 1

/-- The string at a place of the buffer starts with the labels of a text. -/
def matchesFrom (buffer : Bytes) : Nat -> Nat -> Bytes -> Option Bool
  | _, _, [] => some true
  | 0, _, _ => some false
  | fuel + 1, place, text => do
      let substring <- mdnsGetNextSubstring buffer place
      match substring.offset with
      | none => return false
      | some offset =>
          if substring.length = 0 ∨
              substring.length ≠ (firstLabel text).length then return false
          else if pieceAt buffer offset substring.length ≠ firstLabel text then
            return false
          else matchesFrom buffer fuel (offset + substring.length) (behindLabel text)

def tableFindFrom (buffer text : Bytes) : List Nat -> Option (Option Nat)
  | [] => some none
  | offset :: rest => do
      if <- matchesFrom buffer text.length offset text then return some offset
      else tableFindFrom buffer text rest

/-- The first string of the table that starts with the labels of a text. -/
def mdnsStringTableFind (table : Option StringTable) (buffer text : Bytes) :
    Option (Option Nat) :=
  match table with
  | none => some none
  | some table => tableFindFrom buffer text (table.offset.take table.count)

/-!
## Names
-/

/-- What a function that fills the buffer leaves: the buffer, the place behind
what it wrote, and the table. -/
structure Written where
  buffer : Bytes
  data : Nat
  table : Option StringTable

def mdnsStringMakeRef (written : Written) (refOffset : Nat) :
    Option (Option Written) :=
  if written.buffer.length - written.data < 2 then some none
  else do
    let buffer <- writeAt written.buffer written.data
      (u16 (0xC000 ||| (refOffset % 0x10000)))
    return some { written with buffer := buffer, data := written.data + 2 }

/-- The loop over the labels; no more of them than bytes. -/
def makeFrom : Nat -> Written -> Bytes -> Option (Option Written)
  | _, written, [] =>
      if written.buffer.length - written.data = 0 then some none
      else do
        let buffer <- writeAt written.buffer written.data [0]
        return some { written with buffer := buffer, data := written.data + 1 }
  | 0, _, _ => some none
  | fuel + 1, written, text => do
      match <- mdnsStringTableFind written.table written.buffer text with
      | some refOffset => mdnsStringMakeRef written refOffset
      | none =>
          let label := firstLabel text
          if written.buffer.length - written.data <= label.length + 1 then return none
          else
            let buffer <- writeAt written.buffer written.data
              (UInt8.ofNat label.length :: label)
            makeFrom fuel
              { buffer := buffer
                data := written.data + (label.length + 1)
                table := written.table.map (mdnsStringTableAdd · written.data) }
              (behindLabel text)

/-- The last byte of the name is read before its length is looked at. -/
def mdnsStringMake (written : Written) (name : Bytes) :
    Option (Option Written) := do
  let last <- name.getLast?
  let text := if last = dot then name.dropLast else name
  makeFrom text.length written text

/-!
## Queries
-/

/-- `mdns_query_t`. -/
structure MdnsQuery where
  type : Nat
  name : Bytes

def sizeofHeader : Nat := 12

def mdnsClassIn : Nat := 1
def mdnsUnicastResponse : Nat := 0x8000

/-- One question: a name, its type and the class.  Room is only looked for when
the name is written. -/
def fillQuestions (rclass : Nat) :
    Written -> List MdnsQuery -> Option (Option Written)
  | written, [] => some (some written)
  | written, query :: rest => do
      match <- mdnsStringMake written query.name with
      | none => return none
      | some written =>
          let buffer <- writeAt written.buffer written.data
            (u16 query.type ++ u16 rclass)
          fillQuestions rclass
            { written with buffer := buffer, data := written.data + 4 } rest

/-- The datagram that is sent, none when -1 is returned before.  The answer is
asked for by unicast unless the socket is bound to the port of mDNS. -/
def mdnsMultiquerySend (buffer : Bytes) (query : List MdnsQuery)
    (queryId : Nat) (onMdnsPort : Bool) : Option (Option Bytes) := do
  if query.length = 0 ∨ buffer.length < sizeofHeader + 6 * query.length then
    return none
  else
    let rclass := if onMdnsPort then mdnsClassIn
      else mdnsClassIn ||| mdnsUnicastResponse
    let buffer <- writeAt buffer 0
      (u16 queryId ++ u16 0 ++ u16 query.length ++ u16 0 ++ u16 0 ++ u16 0)
    match <- fillQuestions rclass
        { buffer := buffer, data := sizeofHeader, table := none } query with
    | none => return none
    | some written => return some (written.buffer.take written.data)

end Mdns
end Noc
