/-
# Requests can be read back

Whoever receives the line of a request can take it apart again: the newline ends
it, a space ends each token, a token that begins with a dash names the next
directive, and every other token is an argument of the latest one. `decode?` is
that reading. It gets back every request whose names hold neither a space nor a
newline, with arguments of any bytes.

So the line determines the request, and what the arguments are makes no difference
to the names that are read.
-/

import EditorClient.Proofs.Lines
import EditorClient.Proofs.Text.Utf8
import EditorClient.Proofs.Wire.Token
import EditorClient.Request

namespace EditorClient

open Bytes

namespace Directive

/-- The name of a directive is one token. -/
structure Plain (d : Directive) : Prop where
  space : ' ' ∉ d.name.toList
  newline : '\n' ∉ d.name.toList

/-- The tokens in which a directive is written. -/
def tokens (d : Directive) : List Bytes := (dash :: ofText d.name) :: d.args.map Token.escape

theorem encode_eq (d : Directive) : d.encode = d.tokens.flatMap (· ++ [space]) := by
  have each : encodeArg = fun arg => Token.escape arg ++ [space] := rfl
  simp [encode, tokens, each, List.flatMap_map]

theorem not_mem_of_mem_tokens {d : Directive} (plain : d.Plain) {token : Bytes}
    (there : token ∈ d.tokens) : space ∉ token ∧ newline ∉ token := by
  rcases List.mem_cons.mp there with rfl | argument
  · have noSpace : Bytes.space ∉ ofText d.name := mt (Utf8.mem_ofText (by decide) _).mp plain.space
    have noNewline : Bytes.newline ∉ ofText d.name :=
      mt (Utf8.mem_ofText (by decide) _).mp plain.newline
    have others : Bytes.space ≠ dash ∧ Bytes.newline ≠ dash := by decide
    simp [noSpace, noNewline, others]
  · obtain ⟨value, -, rfl⟩ := List.mem_map.mp argument
    exact Token.not_mem_escape value

end Directive

namespace Request

/-- The tokens of a text. A space ends each of them; what follows the last space is a
token unless it is empty. -/
def tokens (text : Bytes) : List Bytes :=
  let pieces := Pieces.split space text
  if pieces.getLast? = some [] then pieces.dropLast else pieces

/-- Tokens as directives, together with the arguments that stand before the first name. -/
def gather : List Bytes → List Bytes × Request
  | [] => ([], [])
  | token :: rest =>
    if token.head? = some dash then
      ([], ⟨Utf8.lossy token.tail, (gather rest).1⟩ :: (gather rest).2)
    else (Token.unescape token :: (gather rest).1, (gather rest).2)

/-- The request that a line is, unless the line is not ended or begins with an argument. -/
def decode? (line : Bytes) : Option Request :=
  let gathered := gather (tokens line.dropLast)
  if line.getLast? = some newline ∧ gathered.1 = [] then some gathered.2 else none

variable {r : Request}

theorem tokens_flatMap_concat {pieces : List Bytes} (absent : ∀ piece ∈ pieces, space ∉ piece) :
    tokens (pieces.flatMap (· ++ [space])) = pieces := by
  simp [tokens, Pieces.split_flatMap_concat absent]

/-- Values that were written are gathered as arguments. -/
theorem gather_map_escape (values : List Bytes) (rest : List Bytes) :
    gather (values.map Token.escape ++ rest) = (values ++ (gather rest).1, (gather rest).2) := by
  induction values with
  | nil => rfl
  | cons value values ih =>
      rw [List.map_cons, List.cons_append, gather, if_neg (Token.head_escape value), ih,
        Token.unescape_escape]
      rfl

/-- The directives of a request are gathered again. The induction is on the directives:
the arguments of each end where the name of the next one stands. -/
theorem gather_flatMap_tokens (r : Request) : gather (r.flatMap Directive.tokens) = ([], r) := by
  induction r with
  | nil => rfl
  | cons d rest ih =>
      have name : (dash :: ofText d.name).head? = some dash := rfl
      rw [List.flatMap_cons, Directive.tokens, List.cons_append, gather, if_pos name,
        gather_map_escape, ih, List.append_nil, List.tail_cons, Utf8.lossy_ofText]

theorem encode_eq (r : Request) :
    r.encode = (r.flatMap Directive.tokens).flatMap (· ++ [space]) ++ [newline] := by
  have each : Directive.encode = fun d => d.tokens.flatMap (· ++ [space]) :=
    funext Directive.encode_eq
  rw [encode, each, List.flatMap_assoc]

/-- The newline at the end of a request is the only one. -/
theorem newline_not_mem_dropLast_encode (plain : ∀ d ∈ r, d.Plain) :
    newline ∉ r.encode.dropLast := by
  rw [encode_eq, List.dropLast_concat]
  simp only [List.mem_flatMap, List.mem_append, List.mem_singleton, not_exists, not_and]
  rintro token ⟨d, there, written⟩ (found | ended)
  · exact (Directive.not_mem_of_mem_tokens (plain d there) written).2 found
  · exact absurd ended (by decide)

theorem decode?_encode (plain : ∀ d ∈ r, d.Plain) : decode? r.encode = some r := by
  have absent : ∀ token ∈ r.flatMap Directive.tokens, space ∉ token := by
    intro token there
    obtain ⟨d, member, written⟩ := List.mem_flatMap.mp there
    exact (Directive.not_mem_of_mem_tokens (plain d member) written).1
  simp [decode?, encode_eq, tokens_flatMap_concat absent, gather_flatMap_tokens]

/-- A request is one line and is read back from it, whatever its arguments are. Hence no
other request has the same line, and requests with the same names are read as the same
names, so that no argument adds, removes or renames a directive. -/
theorem line_decodes_uniquely (plain : ∀ d ∈ r, d.Plain) :
    r.encode.getLast? = some newline ∧ newline ∉ r.encode.dropLast ∧
      decode? r.encode = some r ∧
      (∀ r' : Request, (∀ d ∈ r', d.Plain) → r'.encode = r.encode → r' = r) ∧
      ∀ r' : Request, r'.map Directive.name = r.map Directive.name →
        (decode? r'.encode).map (List.map Directive.name) = some (r.map Directive.name) := by
  refine ⟨List.getLast?_concat, newline_not_mem_dropLast_encode plain, decode?_encode plain,
    fun r' plain' same => ?_, fun r' names => ?_⟩
  · have read := decode?_encode plain'
    rw [same, decode?_encode plain] at read
    exact (Option.some.inj read).symm
  · have plain' : ∀ d ∈ r', d.Plain := by
      intro d there
      have named : d.name ∈ r.map Directive.name := names ▸ List.mem_map_of_mem there
      obtain ⟨other, member, same⟩ := List.mem_map.mp named
      exact ⟨same ▸ (plain other member).space, same ▸ (plain other member).newline⟩
    rw [decode?_encode plain', Option.map_some, names]

/-- Arguments that look like directives, that are empty, and that hold what separates
tokens and lines. -/
theorem line_of_misleading_arguments :
    let r : Request :=
      [⟨"eval", [ofText "-file x\n", [], ofText "&_ &n"]⟩, ⟨"", []⟩, ⟨"-", [[dash], [space]]⟩]
    (∀ d ∈ r, d.Plain) ∧ newline ∉ r.encode.dropLast ∧ decode? r.encode = some r := by
  intro r
  have plain : ∀ d ∈ r, d.Plain := by
    simp only [r, List.forall_mem_cons]
    exact ⟨⟨by decide, by decide⟩, ⟨by decide, by decide⟩, ⟨by decide, by decide⟩, nofun⟩
  obtain ⟨-, one, read, -, -⟩ := line_decodes_uniquely plain
  exact ⟨plain, one, read⟩

end Request

end EditorClient
