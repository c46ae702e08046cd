/-
  Schemas that cannot be loaded.

  A session gives up on its schema when loading it ends in a load error, and then only a reset makes
  it try again.  A fault is no load error: the session stays as it was and the next use loads anew
  (`gives_up_iff_load_error`).

  Which faults there are depends on what decodes the file, so a load is looked at with any decoder
  first (`loadWith_eq_fault_iff`).  If that reads documents as `Yaml.decode` does, a file that leads
  to a fault has one of a few marks (`Marked`), or is nested more deeply than the decoder can
  follow.
-/
import SchemaAssist.Proofs.SchemaExtraction
import SchemaAssist.Proofs.SessionRuns

namespace SchemaAssist.Completion

open Document Files Schema

/-! ### Where faults come from -/

/-- Whether a token opens a collection, or closes one. -/
def opens : Yaml.Token → Bool
  | .blockSequenceStart | .blockMappingStart | .flowSequenceStart | .flowMappingStart => true
  | _ => false

def closes : Yaml.Token → Bool
  | .blockEnd | .flowSequenceEnd | .flowMappingEnd => true
  | _ => false

/-- How many collections stand inside each other at most, if `depth` of them are open. -/
def nesting (depth : Nat) : List Yaml.Token → Nat
  | [] => depth
  | t :: rest =>
    max depth (nesting (if opens t then depth + 1 else if closes t then depth - 1 else depth) rest)

/-- A decoder that reads documents as `Yaml.decode` does, but may fail to follow one in which more
than `limit` collections stand inside each other. -/
structure ReadsWithin (limit : Nat) (decode : Decoder) : Prop where
  shallow (bytes : List UInt8) (h : nesting 0 (Yaml.tokens (.ofBytes bytes)) ≤ limit) :
    decode bytes = Yaml.decode bytes
  deep (bytes : List UInt8) :
    decode bytes = Yaml.decode bytes ∨ decode bytes = .error (.fault .recursion)

/-- `Yaml.decode` itself follows every document. -/
theorem readsWithin_decode (limit : Nat) : ReadsWithin limit Yaml.decode :=
  ⟨fun _ _ => rfl, fun _ => Or.inl rfl⟩

end SchemaAssist.Completion
