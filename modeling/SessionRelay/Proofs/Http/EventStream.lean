import SessionRelay.Http.EventStream
import SessionRelay.Proofs.ClientState
import SessionRelay.Proofs.Http.Site
import SessionRelay.Proofs.Json.OneLine

/-!
# What a client reads of an event stream

A client takes a stream apart into lines, fields and events by the rules for server-sent events
(`read`). What a session tells is on one line, an endpoint as well as a message, whatever its
strings hold. So the client reads the events that were written, one for one, and signs of life
between them do not show (`read_parts`).
-/

namespace SessionRelay.Http.EventStream

/-! ## Reading -/

/-- An event as a client gets it. -/
structure Received where
  name : String
  data : String
  deriving DecidableEq

/-- What a client has of an event so far; each line of its data ends in a line feed. -/
structure Pending where
  name : List Char := []
  data : List Char := []

/-- The lines of a text, after the start of the first one. A line ends with a carriage return, a
line feed, or the one and the other; what has no end is no line. -/
def linesFrom (line : List Char) : List Char → List (List Char)
  | [] => []
  | '\r' :: '\n' :: rest => line :: linesFrom [] rest
  | c :: rest =>
    if c = '\r' ∨ c = '\n' then line :: linesFrom [] rest else linesFrom (line ++ [c]) rest

/-- The name of a field, and its value without one space at the start. -/
def field (line : List Char) : List Char × List Char :=
  let value := (line.dropWhile (· ≠ ':')).drop 1
  (line.takeWhile (· ≠ ':'), if value.head? = some ' ' then value.tail else value)

/-- What a line that is not blank adds to an event. A line that starts with a colon is a comment; it
adds nothing, and neither does a field with another name. -/
def Pending.add (p : Pending) (line : List Char) : Pending :=
  if line.head? = some ':' then p
  else
    let (name, value) := field line
    if name = "event".toList then { p with name := value }
    else if name = "data".toList then { p with data := p.data ++ value ++ ['\n'] }
    else p

/-- The event that a blank line completes. There is none without data, and the default name is
`message`. -/
def Pending.event? (p : Pending) : Option Received :=
  if p.data = [] then none
  else some ⟨if p.name = [] then "message" else String.ofList p.name, String.ofList p.data.dropLast⟩

/-- The events of some lines. What the last blank line does not complete is dropped. -/
def readLines (p : Pending) : List (List Char) → List Received
  | [] => []
  | [] :: rest => p.event?.toList ++ readLines {} rest
  | line :: rest => readLines (p.add line) rest

/-- A byte order mark at the start of a text does not count. -/
def unmarked : List Char → List Char
  | '\uFEFF' :: cs => cs
  | cs => cs

/-- The events that a client reads of a response body. -/
def read (body : Bytes) : List Received :=
  readLines {} (linesFrom [] (unmarked (Utf8.decodeLossy body).toList))

example : read (Utf8.encode
      "event: endpoint\r\ndata: /message\r\n\r\n: on\n\ndata:a\ndata: b\n\nid: 1\n\ndata: c") =
    [⟨"endpoint", "/message"⟩, ⟨"message", "a\nb"⟩] := by
  decide +kernel

/-! ## Lines -/

theorem linesFrom_append (rest : List Char) : ∀ {line cs : List Char}, OneLine cs →
    linesFrom line (cs ++ '\n' :: rest) = (line ++ cs) :: linesFrom [] rest
  | line, [], _ => by simp [linesFrom]
  | line, c :: cs, h => by
    have hreturn : c ≠ '\r' := fun hc => h.notMem (.inl hc) List.mem_cons_self
    have hfeed : c ≠ '\n' := fun hc => h.notMem (.inr hc) List.mem_cons_self
    rw [List.cons_append, linesFrom, if_neg (by simp [hreturn, hfeed]),
      linesFrom_append rest (OneLine.cons_iff.1 h).2]
    · simp
    · exact fun _ hc => absurd hc hreturn

/-! ## Fields -/

theorem field_append {name : List Char} (h : ':' ∉ name) (value : List Char) :
    field (name ++ ':' :: ' ' :: value) = (name, value) := by
  have hname : ∀ c ∈ name, decide (c ≠ ':') = true := fun c hc =>
    decide_eq_true fun heq => h (heq ▸ hc)
  rw [field, List.takeWhile_append_of_pos hname, List.dropWhile_append_of_pos hname]
  simp

theorem Pending.add_event (p : Pending) (value : List Char) :
    p.add ("event".toList ++ ':' :: ' ' :: value) = { p with name := value } := by
  rw [add, if_neg (by simp), field_append (by decide)]
  rfl

theorem Pending.add_data (p : Pending) (value : List Char) :
    p.add ("data".toList ++ ':' :: ' ' :: value) =
      { p with data := p.data ++ value ++ ['\n'] } := by
  rw [add, if_neg (by simp), field_append (by decide)]
  rfl

theorem readLines_cons {line : List Char} (h : line ≠ []) (p : Pending) (rest : List (List Char)) :
    readLines p (line :: rest) = readLines (p.add line) rest := by
  rw [readLines]
  exact h

/-! ## Blocks -/

theorem toList_block {data : String} (hdata : OneLine data.toList) (name : String) :
    (block name data).toList = "event".toList ++ ':' :: ' ' :: name.toList ++
      '\n' :: ("data".toList ++ ':' :: ' ' :: data.toList ++ ['\n', '\n']) := by
  have hlines : Text.splitOn '\n' data.toList = [data.toList] :=
    Text.splitOn_of_notMem (hdata.notMem (.inr rfl))
  simp [block, hlines]

/-- A block is read as one event, and leaves nothing behind. -/
theorem readLines_block {name data : String} (hname : OneLine name.toList) (hsome : name ≠ "")
    (hdata : OneLine data.toList) (rest : List Char) :
    readLines {} (linesFrom [] ((block name data).toList ++ rest)) =
      ⟨name, data⟩ :: readLines {} (linesFrom [] rest) := by
  have hfirst : OneLine ("event".toList ++ ':' :: ' ' :: name.toList) := by
    simpa using hname
  have hsecond : OneLine ("data".toList ++ ':' :: ' ' :: data.toList) := by
    simpa using hdata
  have hlines : linesFrom [] ((block name data).toList ++ rest) =
      ("event".toList ++ ':' :: ' ' :: name.toList) ::
        ("data".toList ++ ':' :: ' ' :: data.toList) :: [] :: linesFrom [] rest := by
    rw [toList_block hdata, List.append_assoc, List.cons_append, linesFrom_append _ hfirst,
      List.append_assoc, List.cons_append, linesFrom_append _ hsecond]
    simp [linesFrom]
  rw [hlines, readLines_cons (by simp), readLines_cons (by simp), Pending.add_event,
    Pending.add_data]
  simp [readLines, Pending.event?, hsome]

theorem readLines_keepAliveComment (rest : List Char) :
    readLines {} (linesFrom [] (keepAliveComment.toList ++ rest)) =
      readLines {} (linesFrom [] rest) := by
  rfl

/-! ## Messages and endpoints -/

theorem oneLine_wire (m : Rpc.Message) : OneLine m.wire.toList := by
  rw [Rpc.Message.wire, Json.compact, String.toList_ofList]
  exact Json.oneLine_compactChars _

theorem le_of_isFormChar : ∀ n < 0x80, Url.Form.IsFormChar (Char.ofNat n) → 32 ≤ n := by decide

theorem oneLine_of_isFormChar {cs : List Char} (h : ∀ c ∈ cs, Url.Form.IsFormChar c) :
    OneLine cs := fun c hc => by
  have hform := h c hc
  have hlt : c.toNat < 0x80 := by
    rcases hform with halnum | hmark
    · exact Text.toNat_lt_of_isAlphanum halnum
    · simp only [List.mem_cons, List.not_mem_nil, or_false] at hmark
      rcases hmark with rfl | rfl | rfl | rfl | rfl | rfl <;> decide
  exact le_of_isFormChar c.toNat hlt (by rwa [Char.ofNat_toNat])

theorem isFormChar_of_isUrlChar {c : Char} (h : Base64.IsUrlChar c) : Url.Form.IsFormChar c := by
  rcases h with h | rfl | rfl
  · exact .inl h
  · exact .inr (by decide)
  · exact .inr (by decide)

/-- The endpoints that a site tells: its message box with a token, and an access code if one was
given. -/
def IsEndpoint (site : Site) (url : String) : Prop :=
  ∃ (codec : ClientState.Codec) (nonce : Bytes) (state : ClientState) (encrypt : Bool)
    (token : String) (code : Option String),
    codec.format nonce state encrypt = .ok token ∧ url = endpointUrl site.messagePath token code

theorem oneLine_endpoint {site : Site} {url : String} (hbase : OneLine site.basePath.toList)
    (h : IsEndpoint site url) : OneLine url.toList := by
  obtain ⟨codec, nonce, state, encrypt, token, code, htoken, rfl⟩ := h
  have htoken : OneLine token.toList := oneLine_of_isFormChar fun c hc =>
    isFormChar_of_isUrlChar (ClientState.Codec.isUrlChar_of_format htoken c hc)
  cases code with
  | none => simp [endpointUrl, Site.messagePath, hbase, htoken]
  | some code =>
    have hcode : OneLine (Url.Form.encode code).toList :=
      oneLine_of_isFormChar fun _ => Url.Form.isFormChar_of_mem_encode
    simp [endpointUrl, Site.messagePath, hbase, htoken, hcode]

/-! ## Streams -/

/-- What is written on a stream: events, and signs of life between them. -/
inductive Part
  | event (e : TransportEvent)
  | alive

namespace Part

def text : Part → String
  | event e => ofEvent e
  | alive => keepAliveComment

def event? : Part → Option TransportEvent
  | event e => some e
  | alive => none

end Part

/-- What a client is to get of an event. -/
def received : TransportEvent → Received
  | .endpoint url => ⟨"endpoint", url⟩
  | .message m => ⟨"message", m.wire⟩

variable {site : Site}

theorem readLines_part (hbase : OneLine site.basePath.toList) {part : Part}
    (hpart : ∀ url, part = .event (.endpoint url) → IsEndpoint site url) (rest : List Char) :
    readLines {} (linesFrom [] (part.text.toList ++ rest)) =
      (part.event?.map received).toList ++ readLines {} (linesFrom [] rest) := by
  match part with
  | .event (.endpoint url) =>
    exact readLines_block (by decide) (by decide) (oneLine_endpoint hbase (hpart url rfl)) rest
  | .event (.message m) => exact readLines_block (by decide) (by decide) (oneLine_wire m) rest
  | .alive => exact readLines_keepAliveComment rest

theorem readLines_parts (hbase : OneLine site.basePath.toList) : ∀ {parts : List Part},
    (∀ url, .event (.endpoint url) ∈ parts → IsEndpoint site url) →
      readLines {} (linesFrom [] (parts.flatMap fun part => part.text.toList)) =
        (parts.filterMap Part.event?).map received
  | [], _ => rfl
  | part :: parts, h => by
    have hpart : ∀ url, part = .event (.endpoint url) → IsEndpoint site url := fun url heq =>
      h url (heq ▸ List.mem_cons_self)
    have hparts := readLines_parts hbase fun url hmem => h url (List.mem_cons_of_mem part hmem)
    rw [List.flatMap_cons, readLines_part hbase hpart, hparts]
    cases part <;> rfl

theorem block_start (name data : String) : ∃ cs, (block name data).toList = 'e' :: cs :=
  ⟨_, by simp only [block, String.toList_append, List.append_assoc]; rfl⟩

/-- No part starts with a byte order mark. -/
theorem unmarked_parts (parts : List Part) :
    unmarked (parts.flatMap fun part => part.text.toList) =
      parts.flatMap fun part => part.text.toList := by
  cases parts with
  | nil => rfl
  | cons part parts =>
    have hblock (name data : String) (rest : List Char) :
        unmarked ((block name data).toList ++ rest) = (block name data).toList ++ rest := by
      obtain ⟨cs, hcs⟩ := block_start name data
      rw [hcs]
      rfl
    match part with
    | .event (.endpoint url) => exact hblock _ _ _
    | .event (.message m) => exact hblock _ _ _
    | .alive => rfl

/-- A client reads the events that were written on a stream, each with its own name and text,
whatever the strings in messages hold and wherever signs of life come in between. -/
theorem read_parts (hbase : OneLine site.basePath.toList) (parts : List Part)
    (hparts : ∀ url, .event (.endpoint url) ∈ parts → IsEndpoint site url) :
    read (Utf8.encode (String.join (parts.map Part.text))) =
      (parts.filterMap Part.event?).map received := by
  have htext : (String.join (parts.map Part.text)).toList =
      parts.flatMap fun part => part.text.toList := by
    rw [String.toList_join, List.flatMap_map]
  rw [read, Url.Form.decodeLossy_encode, htext, unmarked_parts, readLines_parts hbase hparts]

/-- A notification whose method looks like the end of its event and another one. -/
def forged : Rpc.Message := .notification { method := "note\r\n\ndata: forged\n\n" }

theorem read_parts_forged :
    read (Utf8.encode (String.join ([.alive, .event (.endpoint "/message?state=Y3xh&code=a+b"),
        .event (.message forged), .alive].map Part.text))) =
      [⟨"endpoint", "/message?state=Y3xh&code=a+b"⟩, ⟨"message", forged.wire⟩] := by
  have htoken : ClientState.Codec.plain.format [] ⟨"c", "a"⟩ false = .ok "Y3xh" := by rfl
  have hbase : OneLine ({} : Site).basePath.toList := by decide
  refine read_parts hbase _ fun url hurl => ?_
  obtain rfl : url = "/message?state=Y3xh&code=a+b" := by simpa using hurl
  exact ⟨.plain, [], ⟨"c", "a"⟩, false, "Y3xh", some "a b", htoken, by decide⟩

end SessionRelay.Http.EventStream
