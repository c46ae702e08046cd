/-
  The text of a document as it arrives.

  Bytes are decoded in pieces and the characters are taken in blocks, so a document may be read a
  good way before it turns out that it is not UTF-8 or has a character that no document may have.
  What was read by then counts: whatever is wrong with it comes first.
-/
import SchemaAssist.Yaml.Cursor

namespace SchemaAssist.Yaml

structure Stream where
  /-- The characters that can be read. -/
  text : List Char
  /-- What is wrong with those after them; nothing at the end of the document. -/
  failure : Option Error
  deriving DecidableEq, Repr

namespace Stream

def blockSize : Nat := 4096

/-- How many of the first `n` characters come in whole blocks.  The first two blocks come together.
-/
def inBlocks (n : Nat) : Nat := if n < 2 * blockSize then 0 else n - n % blockSize

/-- A text that ends with a failure, if none of its own characters is one. -/
def ofText (text : List Char) (failure : Option Error) : Stream :=
  match text.findIdx? (!isAllowed ·) with
  | none => ⟨text, failure⟩
  | some n => ⟨text.take (inBlocks n), some (.invalid .unprintable 0 0)⟩

/-- Drops a carriage return at the end, of which it is not known yet whether a line feed follows. -/
def dropReturn (chars : List Char) : List Char :=
  if chars.getLast? = some '\r' then chars.dropLast else chars

def ofBytes (bytes : List UInt8) : Stream :=
  match Text.decodeStream bytes with
  | (chars, none) => ofText (Text.universalNewlines chars) none
  | (chars, some e) =>
    let text := Text.universalNewlines (dropReturn chars)
    ofText (text.take (inBlocks text.length)) (some (.undecodable e))

end Stream

end SchemaAssist.Yaml
