import Phrasebook.Grpc.Status
/-!
# Frames

In a body a message stands in a frame: a flag for compression, four bytes of length, the message. No
compression is agreed on here, and a message has a greatest length.
-/

set_option autoImplicit false

namespace Phrasebook.Grpc.Frame

/-- The greatest length of a message that is read, unless another is set. -/
def defaultLimit : Nat := 4194304

/-- A number below 2^32 in four bytes, highest first. -/
def length4 (n : Nat) : Bytes :=
  [(n / 16777216).toUInt8, (n / 65536).toUInt8, (n / 256).toUInt8, n.toUInt8]

/-- The frame of a message. -/
def wrap (message : Bytes) : Bytes := 0 :: length4 message.length ++ message

/-- The status when a body ends inside a frame. -/
def unexpectedEnd : Status := ⟨.internal, "Unexpected EOF decoding stream."⟩

/-- The status for a message that is too long to read. -/
def tooLong (found limit : Nat) : Status :=
  ⟨.outOfRange, "Error, decoded message length too large: found " ++ toString found ++
    " bytes, the limit is: " ++ toString limit ++ " bytes"⟩

/-- The status for a message that is too long to write. -/
def tooLongToSend (found limit : Nat) : Status :=
  ⟨.outOfRange, "Error, encoded message length too large: found " ++ toString found ++
    " bytes, the limit is: " ++ toString limit ++ " bytes"⟩

/-- Whether the frames are those of a request or of a response. -/
inductive Direction where
  | request
  | response

/-- What is being done with frames of this direction. -/
def Direction.activity : Direction → String
  | .request => "while sending request"
  | .response => "while receiving response"

/-- The status for a flag other than zero. -/
def badFlag (d : Direction) (flag : UInt8) : Status :=
  if flag == 1 then
    ⟨.internal, "protocol error: received message with compressed-flag but no grpc-encoding was specified"⟩
  else
    ⟨.internal, "protocol error: received message with invalid compression flag: " ++ toString flag.toNat ++
      " (valid flags are 0 and 1), " ++ d.activity⟩

/-- Reads the next message of a body, with the bytes after it. A body that ends right after the length of
a message ends without that message. -/
def next (d : Direction) (limit : Nat) (b : Bytes) : Except Status (Option (Bytes × Bytes)) :=
  match b with
  | [] => .ok none
  | flag :: a₃ :: a₂ :: a₁ :: a₀ :: rest =>
    if flag != 0 then .error (badFlag d flag)
    else
      let n := ((a₃.toNat * 256 + a₂.toNat) * 256 + a₁.toNat) * 256 + a₀.toNat
      if n > limit then .error (tooLong n limit)
      else if n ≤ rest.length then .ok (some (rest.take n, rest.drop n))
      else if rest.isEmpty then .ok none
      else .error unexpectedEnd
  | _ => .error unexpectedEnd

/-- Reads all messages of a body with a reader for one. -/
def readAll {α : Type} (d : Direction) (limit : Nat) (read : Bytes → Except Status α) :
    Nat → Bytes → Except Status (List α)
  | 0, _ => .ok []
  | fuel + 1, b => do
    match ← next d limit b with
    | none => .ok []
    | some (message, rest) =>
      let v ← read message
      let more ← readAll d limit read fuel rest
      .ok (v :: more)

end Phrasebook.Grpc.Frame
