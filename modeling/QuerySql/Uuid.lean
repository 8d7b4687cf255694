import QuerySql.Text.Digits

namespace QuerySql

structure Uuid where
  bits : BitVec 128
  deriving DecidableEq

namespace Uuid

def text (uuid : Uuid) : String :=
  let digits := (Text.hex 32 uuid.bits.toNat).toList
  let group (start length : Nat) := String.ofList ((digits.drop start).take length)
  String.intercalate "-" [group 0 8, group 8 4, group 12 4, group 16 4, group 20 12]

def ungroup? (text : List Char) : Option (List Char) :=
  if text.length = 36 && [8, 13, 18, 23].all fun place => text[place]? == some '-' then
    some (text.take 8 ++ (text.drop 9).take 4 ++ (text.drop 14).take 4 ++ (text.drop 19).take 4
      ++ text.drop 24)
  else none

def read? (text : String) : Option Uuid :=
  let characters := text.toList
  let digits :=
    if characters.length = 32 then some characters
    else if characters.head? = some '\x7b' && characters.getLast? = some '\x7d' then
      ungroup? characters.tail.dropLast
    else if "urn:uuid:".toList.isPrefixOf characters then ungroup? (characters.drop 9)
    else ungroup? characters
  (digits.bind (Text.valueInBase? 16)).map fun value => ⟨BitVec.ofNat 128 value⟩

end Uuid

end QuerySql
