import SessionRelay.Http.Message
import SessionRelay.Text.Split

/-!
# Requests and replies as bytes

A request is its head up to the first blank line, and then a body as long as the head says. Every
character of a head is one byte. A reply with an event stream as body has no length; it lasts as long
as the connection.
-/

namespace SessionRelay.Http

/-! ### Requests -/

/-- What the bytes received so far amount to. -/
inductive Arrival
  | incomplete
  | malformed
  | complete (request : Request)

namespace Arrival

/-- The bytes before the first blank line, and those after it. -/
def splitHead? : Bytes → Option (Bytes × Bytes)
  | 13 :: 10 :: 13 :: 10 :: rest => some ([], rest)
  | b :: rest => (splitHead? rest).map fun (head, body) => (b :: head, body)
  | [] => none

/-- The lines of a head. -/
def lines (head : Bytes) : List (List Char) :=
  let line (cs : List Char) : List Char := cs.filter (· ≠ '\r')
  (Text.splitOn '\n' (head.map fun b => Char.ofNat b.toNat)).map line

/-- Name and value of a header, with no blanks around the value. -/
def header? (line : List Char) : Option (String × String) :=
  let name := line.takeWhile (· ≠ ':')
  match line.drop name.length with
  | _ :: value =>
    let isBlank (c : Char) : Bool := c == ' ' || c == '\t'
    some (String.ofList name, String.ofList ((value.dropWhile isBlank).reverse.dropWhile isBlank).reverse)
  | [] => none

/-- The length of a body: none is said of an empty one, and only decimal digits say one. -/
def bodyLength? (headers : List (String × String)) : Option Nat :=
  let request : Request := { method := "", target := "", headers }
  match request.values "transfer-encoding", request.values "content-length" with
  | [], [] => some 0
  | [], [digits] =>
    if digits ≠ "" ∧ digits.toList.all Char.isDigit then
      some (digits.toList.foldl (fun n c => 10 * n + (c.toNat - 48)) 0)
    else none
  | _, _ => none

/-- Reads a request. -/
def ofBytes (bytes : Bytes) : Arrival :=
  match splitHead? bytes with
  | none => .incomplete
  | some (head, body) =>
    match lines head with
    | first :: rest =>
      match Text.splitOn ' ' first, rest.mapM header? with
      | [method, target, _], some headers =>
        match bodyLength? headers with
        | some length =>
          if body.length < length then .incomplete
          else
            .complete
              { method := String.ofList method, target := String.ofList target, headers,
                body := body.take length }
        | none => .malformed
      | _, _ => .malformed
    | [] => .malformed

end Arrival

/-! ### Replies -/

/-- The words beside a status. -/
def reason : Nat → String
  | 200 => "OK"
  | 202 => "Accepted"
  | 400 => "Bad Request"
  | 404 => "Not Found"
  | 405 => "Method Not Allowed"
  | 406 => "Not Acceptable"
  | 500 => "Internal Server Error"
  | 503 => "Service Unavailable"
  | _ => ""

/-- The head of a reply. -/
def head (status : Nat) (headers : List (String × String)) : String :=
  "HTTP/1.1 " ++ String.ofList (Decimal.digitChars status) ++ " " ++ reason status ++ "\r\n"
    ++ String.join (headers.map fun (name, value) => name ++ ": " ++ value ++ "\r\n") ++ "\r\n"

/-- A reply as it is sent. -/
def Response.spell (r : Response) : String :=
  let length := String.ofList (Decimal.digitChars r.body.utf8ByteSize)
  head r.status (r.headers ++ [("content-length", length), ("connection", "close")]) ++ r.body

end SessionRelay.Http
