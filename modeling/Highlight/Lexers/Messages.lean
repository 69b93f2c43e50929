import Highlight.Lexers.Lines
import Highlight.Lexers.Actions
import Highlight.Chars.Lower

/-!
# Messages with headers

An HTTP message and a mail message both start with header fields; the header that names
the content type decides how the body is lexed. The actions here remember that type (and,
for mail, the boundary of the parts and the transfer encoding) in the cursor's memory and
lex the body, or each part of it, with the first language of that media type.

A multipart mail body is cut at its boundary lines; each part is a message of its own,
lexed by the language of the outer type, which for a multipart type is the mail language
again, one level deeper. The option `MIME-max-level` bounds the depth (negative: no bound).
-/

set_option autoImplicit false

namespace Highlight.Lexers

/-! ## HTTP -/

/-- The general form of a media type with a suffix: `application/calendar+xml` stands also
for `application/xml`. The type is cut at the last `/` before its last `+`. -/
def generalType (t : String) : String :=
  let cs := t.toList
  match (List.range cs.length).reverse.find? (fun i => cs[i]? == some '+') with
  | none => t
  | some p =>
    match (List.range p).reverse.find? (fun i => cs[i]? == some '/') with
    | none => t
    | some q => String.ofList (cs.take q ++ '/' :: cs.drop (p + 1))

/-- A header field of an HTTP message; the content type is remembered without its
parameters. -/
def httpHeader : Callback := fun _ h c =>
  let c := if Chars.lowerText (h.group 1) == "content-type" then
      let t := strip (h.group 5)
      let t := match t.toList.findIdx? (· == ';') with
        | some i => strip (takeChars t i)
        | none => t
      c.remember "content_type" (.text t)
    else c
  (groupToken h 1 .nameAttribute ++ groupToken h 2 .text ++ groupToken h 3 .operator ++
    groupToken h 4 .text ++ groupToken h 5 .literal ++ groupToken h 6 .text, c.past h)

/-- A header line that continues the field before it. -/
def httpHeaderMore : Callback := fun _ h c =>
  (groupToken h 1 .text ++ groupToken h 2 .literal ++ groupToken h 3 .text, c.past h)

/-- The body of an HTTP message, in the language of its content type (or of the general
form of the type), else plain text. -/
def httpContent : Callback := fun env h c =>
  let content := h.whole
  let types := match c.recall "content_type" with
    | some (.text t) =>
      if t.isEmpty then [] else [t] ++ (if t.toList.contains '+' then [generalType t] else [])
    | _ => []
  let (ts, c) : List Token × Cursor := match types.findSome? env.mimetypeClass with
    | some cls =>
      let (ts, c) := env.sublexAt c (some cls) [] none content
      (ts.map (·.shift h.start), c)
    | none => ([⟨h.start, .text, content⟩], c)
  (ts, c.past h)

/-! ## Mail -/

/-- What the mail language knows of the message it lexes: the content type, the boundary
of its parts, the transfer encoding, and how many levels of parts may still be lexed. -/
structure MailState where
  contentType : String
  boundary : Option String
  encoding : Option String
  levels : Int

/-- The state of a mail message: what its headers so far said, else the options. -/
def MailState.of (env : Env) (c : Cursor) : MailState :=
  let text (key option : String) (default : Option String) : Option String :=
    match c.recall key with
    | some (.text s) => some s
    | _ => match env.options.find? option with
      | some (.str s) => some s
      | some _ => default
      | none => default
  { contentType := (text "content_type" "Content_Type" (some "text/plain")).getD ""
    boundary := text "boundary" "Multipart-Boundary" none
    encoding := text "encoding" "Content_Transfer_Encoding" none
    levels := match env.options.number "MIME-max-level" (-1) with
      | .ok n => n
      | .error _ => -1 }

/-- The headers whose values the mail language reads. -/
def readHeaders : List String := ["content-type", "content-transfer-encoding"]

/-- A header field of a mail message: a header the language reads is lexed from a state of
its own name, and what it says is remembered; any other is a comment. -/
def mailHeader : Callback := fun env h c =>
  let field := h.group 1
  let key := Chars.lowerText field
  if readHeaders.contains key then
    let body := h.group 3
    let pos := ((h.span? 2).map (·.2)).getD h.stop
    let (ts, after) := env.again body.toList.toArray
      { pos := 0, stack := [key, "root"], stop := body.length, memo := c.memo, shared := c.shared }
    ([⟨h.start, .nameTag, field ++ ":"⟩] ++ groupToken h 2 .whitespace ++ ts.map (·.shift pos),
      { c with memo := after.memo, shared := after.shared }.past h)
  else ([⟨h.start, .comment, h.whole⟩], c.past h)

/-- Whether a transfer encoding leaves the text readable. -/
def readableEncoding (e : String) : Bool := ["8bit", "7bit", "quoted-printable"].contains e

/-- One part of a mail body: lexed by the first language of the content type, unless it is
blank, unreadable or too deep; a part lexed by the mail language again has one level less.
The shared memory goes through the language that lexes the part. -/
def mailPart (env : Env) (st : MailState) (text : String) (shared : Shared) :
    List Token × Shared :=
  let other := ([piece 0 .other text], shared)
  if (strip text).isEmpty || st.contentType.isEmpty then other
  else if (st.encoding.map fun e => !e.isEmpty && !readableEncoding e).getD false then other
  else if st.levels == 0 then other
  else match env.mimetypeClass st.contentType with
    | none => other
    | some cls =>
      let opts : Options := if cls == "MIMELexer" then [("MIME-max-level", .int (st.levels - 1))] else []
      env.sublex (some cls) opts none text shared

/-- Where a boundary line starts at `i` of `cs`: `--`, the boundary, perhaps `--`, and a
line break at the start of a line; the offset after it. -/
def boundaryAt (cs : Array Char) (marker : List Char) (i : Nat) : Option Nat :=
  if i == 0 || cs[i - 1]? == some '\n' then
    let rest := (cs.extract i cs.size).toList
    if ('-' :: '-' :: marker).isPrefixOf rest then
      let after := rest.drop (marker.length + 2)
      if ['-', '-', '\n'].isPrefixOf after then some (i + marker.length + 5)
      else if ['\n'].isPrefixOf after then some (i + marker.length + 3)
      else none
    else none
  else none

/-- The boundary lines of a body, from offset `start` on, one after another, as spans. -/
def boundaries (cs : Array Char) (marker : List Char) (start : Nat) : List (Nat × Nat) :=
  let (_, out) := (List.range (cs.size + 1 - start)).foldl (fun (next, out) k =>
    let i := start + k
    if i < next then (next, out)
    else match boundaryAt cs marker i with
      | some e => (e, (i, e) :: out)
      | none => (next, out)) (start, ([] : List (Nat × Nat)))
  out.reverse

/-- The parts of a multipart body between its boundary lines: text before the first
boundary, then each part lexed as a message of its own, each boundary as a delimiter, and
text after the last. The parts are lexed in order, each from the shared memory the one
before it left. -/
def multipartTokens (env : Env) (st : MailState) (body : String) (marker : String)
    (shared : Shared) : List Token × Shared :=
  let cs := body.toList.toArray
  let text (a b : Nat) : String := String.ofList (cs.extract a b).toList
  let bs := boundaries cs marker.toList 0
  let (head, partStart, bs) := match bs with
    | (a, b) :: rest => ([piece 0 .text (text 0 a), piece a .stringDelimiter (text a b)], b, rest)
    | [] => ([], 0, [])
  let (ts, last, shared) := bs.foldl (fun (ts, s, shared) (a, b) =>
    let (part, shared) := mailPart env st (text s a) shared
    (ts ++ part.map (·.shift s) ++ [piece a .stringDelimiter (text a b)], b, shared))
    (head, partStart, shared)
  (ts ++ (if last != cs.size then [piece last .text (text last cs.size)] else []), shared)

/-- The body of a mail message, after the blank line: a multipart body with a boundary is
cut into its parts, any other body is one part. -/
def mailBody : Callback := fun env h c =>
  let st := MailState.of env c
  let whole := h.whole
  let (lead, body, offset) : List Token × String × Nat :=
    if whole.startsWith "\n" then ([⟨h.start, .whitespace, "\n"⟩], dropChars whole 1, h.start + 1)
    else ([], whole, h.start)
  let (ts, shared) : List Token × Shared := match st.boundary with
    | some b =>
      if st.contentType.startsWith "multipart" && !b.isEmpty then
        multipartTokens env st body b c.shared
      else mailPart env st body c.shared
    | none => mailPart env st body c.shared
  (lead ++ ts.map (·.shift offset), { c with shared }.past h)

/-- The content type of a mail message: its main type and subtype. -/
def mailContentType : Callback := fun _ h c =>
  let lead := ((h.span? 1).map (·.1)).getD h.start
  ([⟨h.start, .whitespace, h.slice h.start lead⟩] ++ groupToken h 2 .nameLabel ++
    [⟨((h.span? 2).map (·.2)).getD h.start, .stringDelimiter, "/"⟩] ++ groupToken h 3 .nameLabel,
    (c.remember "content_type" (.text (h.group 1))).past h)

/-- A parameter of the content type; the boundary, without its quotes, is remembered. -/
def mailTypeParameter : Callback := fun _ h c =>
  let c := if Chars.lowerText (h.group 3) == "boundary" then
      let b := strip (h.group 5)
      let cs := b.toList
      let b := if cs.head? == some '"' && cs.getLast? == some '"' then slice b 1 (cs.length - 1) else b
      c.remember "boundary" (.text b)
    else c
  (groupToken h 1 .text ++ groupToken h 2 .whitespace ++ groupToken h 3 .nameAttribute ++
    groupToken h 4 .operator ++ groupToken h 5 .string, c.past h)

/-- The transfer encoding of a mail message, remembered in lower case. -/
def mailEncoding : Callback := fun _ h c =>
  ([⟨h.start, .nameConstant, h.whole⟩],
    (c.remember "encoding" (.text (Chars.lowerText h.whole))).past h)

theorem generalType_of_no_plus (t : String) (h : '+' ∉ t.toList) : generalType t = t := by
  have hn : (List.range t.toList.length).reverse.find? (fun i => t.toList[i]? == some '+') = none := by
    rw [List.find?_eq_none]
    intro i hi hp
    have hlt : i < t.toList.length := by simpa using hi
    have : t.toList[i] = '+' := by simpa [List.getElem?_eq_getElem hlt] using hp
    exact h (this ▸ List.getElem_mem hlt)
  simp only [generalType, hn]

end Highlight.Lexers
