import Mathlib.Data.List.TakeWhile
import Phrasebook.Settings.Address
import Phrasebook.Storage.Database
import Phrasebook.Proofs.Decimal.Plain
import Phrasebook.Proofs.Settings.Redaction
import Phrasebook.Proofs.Text.Percent
/-!
# Whether an address leads to the place it was made from

The addresses of the database and the cache are put together from their parts as these stand, and taken apart again by
whoever connects: a slash, a question mark or a number sign ends the credentials and the host, the last at sign ends
the credentials, the first colon the user, and escapes are replaced. A part that holds a sign by which another part
ends, or an escape, comes back as something else. Which these are is said part by part in
`readUrl?_url_iff` and `readUrl?_cacheUrl_iff`.

That nothing else comes back as it was is a matter of length. Where a sign ends the credentials too early, the user
and the password that are found have fewer bytes than those that were meant, and decoding never makes them longer.
-/

set_option autoImplicit false

namespace Phrasebook.Settings

open Address (endsAuthority splitLastAt? unescape? unescape?_eq_self_iff length_le_of_unescape?)
open Text (bytesOf bytesOf_append IsUnescaped)

/-! ## Reading an address -/

/-- What stands before the first sign of a kind, and what stands after it if there is one. -/
def splitFirst (p : Char → Bool) (cs : List Char) : List Char × Option (List Char) :=
  (cs.takeWhile (!p ·), (cs.dropWhile (!p ·)).tail?)

/-- The parts of an address after its scheme, as they are written. -/
structure WrittenUrl where
  user : List Char := []
  password : Option (List Char) := none
  host : List Char
  socket : Option (List Char)
  path : List Char

namespace WrittenUrl

/-- Who asks, and with which password. -/
def credentialsOf (authority : List Char) : List Char × Option (List Char) :=
  match splitLastAt? authority with
  | some (credentials, _) => splitFirst (· == ':') credentials
  | none => ([], none)

/-- The host, and what stands after its colon. -/
def placeOf (authority : List Char) : List Char × Option (List Char) :=
  splitFirst (· == ':') (((splitLastAt? authority).map (·.2)).getD authority)

/-- Whether a character ends the path. -/
def endsPath (c : Char) : Bool := c == '?' || c == '#'

/-- The path without the slash before it. -/
def pathOf : List Char → List Char
  | '/' :: rest => (splitFirst endsPath rest).1
  | _ => []

/-- Takes an address apart. -/
def ofText (cs : List Char) : WrittenUrl :=
  let authority := cs.takeWhile (!endsAuthority ·)
  { user := (credentialsOf authority).1
    password := (credentialsOf authority).2
    host := (placeOf authority).1
    socket := (placeOf authority).2
    path := pathOf (cs.dropWhile (!endsAuthority ·)) }

end WrittenUrl

/-! ## Where the parts are found -/

section Split

variable {p : Char → Bool} {cs front back : List Char}

/-- What stands before the first sign is found, whatever comes after it. -/
theorem takeWhile_front {c : Char} (hfront : ∀ d ∈ front, p d = false) (hc : p c = true) (rest : List Char) :
    (front ++ c :: rest).takeWhile (!p ·) = front := by
  have hpass : ∀ d ∈ front, (!p d) = true := fun d hd => by rw [hfront d hd, Bool.not_false]
  rw [List.takeWhile_append_of_pos hpass, List.takeWhile_cons, hc]
  exact List.append_nil front

/-- What comes after the first sign is found with the sign before it. -/
theorem dropWhile_front {c : Char} (hfront : ∀ d ∈ front, p d = false) (hc : p c = true) (rest : List Char) :
    (front ++ c :: rest).dropWhile (!p ·) = c :: rest := by
  have hpass : ∀ d ∈ front, (!p d) = true := fun d hd => by rw [hfront d hd, Bool.not_false]
  rw [List.dropWhile_append_of_pos hpass, List.dropWhile_cons, hc]
  rfl

/-- A text is parted at the first sign of a kind. -/
theorem splitFirst_append {c : Char} (hfront : ∀ d ∈ front, p d = false) (hc : p c = true) (rest : List Char) :
    splitFirst p (front ++ c :: rest) = (front, some rest) := by
  rw [splitFirst, takeWhile_front hfront hc, dropWhile_front hfront hc]
  rfl

/-- A text without such a sign is all in front. -/
theorem splitFirst_eq_self (h : ∀ d ∈ cs, p d = false) : splitFirst p cs = (cs, none) := by
  have hpass : ∀ d ∈ cs, (!p d) = true := fun d hd => by rw [h d hd, Bool.not_false]
  have htake : cs.takeWhile (!p ·) = cs := List.takeWhile_eq_self_iff.2 hpass
  have hdrop : cs.dropWhile (!p ·) = [] := List.dropWhile_eq_nil_iff.2 hpass
  rw [splitFirst, htake, hdrop]
  rfl

/-- There is a first sign, unless there is none. -/
theorem exists_first (h : ¬ ∀ d ∈ cs, p d = false) :
    ∃ front c back, cs = front ++ c :: back ∧ (∀ d ∈ front, p d = false) ∧ p c = true := by
  induction cs with
  | nil => simp at h
  | cons d cs ih =>
    by_cases hd : p d = true
    · exact ⟨[], d, cs, rfl, by simp, hd⟩
    · rw [Bool.not_eq_true] at hd
      have hlater : ¬ ∀ d ∈ cs, p d = false := by
        intro hall
        apply h
        rw [List.forall_mem_cons]
        exact ⟨hd, hall⟩
      obtain ⟨front, c, back, rfl, hfront, hc⟩ := ih hlater
      refine ⟨d :: front, c, back, rfl, ?_, hc⟩
      rw [List.forall_mem_cons]
      exact ⟨hd, hfront⟩

/-- A text is parted at its last at sign, so what comes before it may hold further ones. -/
theorem splitLastAt?_append (front : List Char) (h : '@' ∉ back) :
    splitLastAt? (front ++ '@' :: back) = some (front, back) := by
  have hthere : (front ++ '@' :: back).contains '@' = true := by simp
  have hafter := afterLastAt?_append front h
  rw [afterLastAt?, if_pos hthere, Option.some.injEq] at hafter
  have hlength : (front ++ '@' :: back).length - back.length - 1 = front.length := by
    rw [List.length_append, List.length_cons]
    omega
  rw [splitLastAt?, if_pos hthere, hafter]
  dsimp only
  rw [hlength, List.take_left]

/-- A text without an at sign is not parted at one. -/
theorem splitLastAt?_eq_none (h : '@' ∉ cs) : splitLastAt? cs = none := by
  rw [splitLastAt?, if_neg]
  simpa using h

end Split

/-- What an address means. -/
structure Url where
  user : String := ""
  password : Option String := none
  host : String
  socket : Option Nat := none
  path : String
deriving DecidableEq

/-- The number that digits stand for. -/
def number? (cs : List Char) : Option Nat :=
  if !cs.isEmpty && cs.all Char.isDigit then some (Nat.ofDigitChars 10 cs 0) else none

/-- The meaning of something that may be missing. -/
def optional? {α β : Type} (f : α → Option β) : Option α → Option (Option β)
  | none => some none
  | some a => (f a).map some

/-- The meaning of the parts of an address. -/
def WrittenUrl.meaning? (w : WrittenUrl) : Option Url := do
  let user ← unescape? (.ofList w.user)
  let password ← optional? (unescape? <| .ofList ·) w.password
  let host ← unescape? (.ofList w.host)
  let socket ← optional? number? w.socket
  let path ← unescape? (.ofList w.path)
  return { user, password, host, socket, path }

/-- Reads an address. -/
def readUrl? (url : String) : Option Url :=
  (splitScheme? url.toList).bind fun p => (WrittenUrl.ofText p.2).meaning?

/-! ## Credentials in their place -/

namespace WrittenUrl

variable {front place path : List Char}

/-- Where the authority holds no sign that ends it, it is all that stands before the slash, and user, password,
host and socket are found in it. -/
theorem ofText_append (h : ∀ c ∈ front, endsAuthority c = false) (path : List Char) :
    ofText (front ++ '/' :: path) =
      { user := (credentialsOf front).1
        password := (credentialsOf front).2
        host := (placeOf front).1
        socket := (placeOf front).2
        path := (splitFirst endsPath path).1 } := by
  rw [ofText, takeWhile_front h rfl, dropWhile_front h rfl]
  rfl

/-- The credentials are all that stands before the last at sign, parted at their first colon. -/
theorem credentialsOf_append (credentials : List Char) (h : '@' ∉ place) :
    credentialsOf (credentials ++ '@' :: place) = splitFirst (· == ':') credentials := by
  rw [credentialsOf, splitLastAt?_append credentials h]

/-- The place is what stands after the last at sign, parted at its first colon. -/
theorem placeOf_append (credentials : List Char) (h : '@' ∉ place) :
    placeOf (credentials ++ '@' :: place) = splitFirst (· == ':') place := by
  rw [placeOf, splitLastAt?_append credentials h]
  rfl

/-- Without an at sign there are no credentials. -/
theorem credentialsOf_bare (h : '@' ∉ place) : credentialsOf place = ([], none) := by
  rw [credentialsOf, splitLastAt?_eq_none h]

/-- Without an at sign the whole authority is the place. -/
theorem placeOf_bare (h : '@' ∉ place) : placeOf place = splitFirst (· == ':') place := by
  rw [placeOf, splitLastAt?_eq_none h]
  rfl

/-! ## Credentials that are cut short -/

/-- Lengths in bytes add up. -/
theorem length_bytesOf_append (front back : List Char) :
    (bytesOf (front ++ back)).length = (bytesOf front).length + (bytesOf back).length := by
  rw [bytesOf_append, List.length_append]

/-- Every character takes at least one byte. -/
theorem length_bytesOf_lt (c : Char) (back : List Char) : (bytesOf back).length < (bytesOf (c :: back)).length := by
  have hpos : 0 < (String.utf8EncodeChar c).length := List.length_pos_iff.2 String.utf8EncodeChar_ne_nil
  rw [Text.bytesOf_cons, List.length_append]
  omega

/-- A user and a password that are found have two signs around them that are not in them. -/
theorem length_credentialsOf {authority user password : List Char}
    (h : credentialsOf authority = (user, some password)) :
    (bytesOf user).length + (bytesOf password).length + 2 ≤ (bytesOf authority).length := by
  by_cases hsign : '@' ∈ authority
  · obtain ⟨credentials, place, rfl, hplace⟩ := exists_last_of_mem hsign
    rw [credentialsOf_append credentials hplace] at h
    by_cases hcolon : ∀ d ∈ credentials, (d == ':') = false
    · rw [splitFirst_eq_self hcolon] at h
      cases h
    · obtain ⟨front, c, back, rfl, hfront, hc⟩ := exists_first hcolon
      rw [splitFirst_append hfront hc, Prod.mk.injEq, Option.some.injEq] at h
      obtain ⟨rfl, rfl⟩ := h
      have hmid := length_bytesOf_lt c back
      have hlast := length_bytesOf_lt '@' place
      rw [length_bytesOf_append, length_bytesOf_append]
      omega
  · rw [credentialsOf_bare hsign] at h
    cases h

/-- **Credentials that end too early** lose bytes. -/
theorem length_of_cut {user password : List Char} (h : ¬ ∀ c ∈ user ++ ':' :: password, endsAuthority c = false)
    (more : List Char) {found : List Char} (hfound : (ofText (user ++ ':' :: password ++ more)).password = some found) :
    (bytesOf (ofText (user ++ ':' :: password ++ more)).user).length + (bytesOf found).length <
      (bytesOf user).length + (bytesOf password).length := by
  obtain ⟨front, c, back, hsplit, hfront, hc⟩ := exists_first h
  have hauthority : (user ++ ':' :: password ++ more).takeWhile (!endsAuthority ·) = front := by
    rw [hsplit, List.append_assoc, List.cons_append, takeWhile_front hfront hc]
  have hpair : credentialsOf front = ((ofText (user ++ ':' :: password ++ more)).user, some found) := by
    rw [← hfound, ofText, hauthority]
  have hshort := length_credentialsOf hpair
  -- what is found lies before the sign, and the sign is among the user, the colon and the password
  have hwhole := congrArg (fun cs => (bytesOf cs).length) hsplit
  have hsign := length_bytesOf_lt c back
  rw [length_bytesOf_append, length_bytesOf_append, Text.bytesOf_cons_of_ascii (by decide), List.length_cons] at hwhole
  omega

/-! ## What the parts mean -/

/-- An address means a place exactly if each of its parts means the part of that place. -/
theorem meaning?_eq_some_iff {w : WrittenUrl} {u : Url} :
    w.meaning? = some u ↔ unescape? (.ofList w.user) = some u.user ∧
      optional? (unescape? <| .ofList ·) w.password = some u.password ∧ unescape? (.ofList w.host) = some u.host ∧
      optional? number? w.socket = some u.socket ∧ unescape? (.ofList w.path) = some u.path := by
  obtain ⟨user, password, host, socket, path⟩ := u
  simp only [meaning?, Option.bind_eq_bind, Option.bind_eq_some_iff, Option.pure_def, Option.some.injEq, Url.mk.injEq]
  constructor
  · rintro ⟨_, huser, _, hpassword, _, hhost, _, hsocket, _, hpath, rfl, rfl, rfl, rfl, rfl⟩
    exact ⟨huser, hpassword, hhost, hsocket, hpath⟩
  · rintro ⟨huser, hpassword, hhost, hsocket, hpath⟩
    exact ⟨_, huser, _, hpassword, _, hhost, _, hsocket, _, hpath, rfl, rfl, rfl, rfl, rfl⟩

end WrittenUrl

/-- A part that may be missing means something exactly if it is there and means that. -/
theorem optional?_eq_some_some {α β : Type} {f : α → Option β} {x : Option α} {b : β} :
    optional? f x = some (some b) ↔ ∃ a, x = some a ∧ f a = some b := by
  cases x <;> simp [optional?]

/-- A part comes back as it is: none of the signs by which it would end is in it, and no escape. -/
def Keeps (p : Char → Bool) (part : String) : Prop := (∀ c ∈ part.toList, p c = false) ∧ IsUnescaped part

instance (p : Char → Bool) (part : String) : Decidable (Keeps p part) :=
  have : Decidable (∀ c ∈ part.toList, p c = false) := List.decidableBAll _ part.toList
  have : Decidable (IsUnescaped part) := decidable_of_iff _ (unescape?_eq_self_iff part)
  instDecidableAnd

/-- What ends a user. -/
def endsUser (c : Char) : Bool := c == ':' || endsAuthority c

/-- A host without any sign that means something in an address. -/
def IsHost (host : String) : Prop := ∀ c ∈ host.toList, c ∉ [':', '/', '@', '?', '#', '%']

instance (host : String) : Decidable (IsHost host) :=
  List.decidableBAll _ host.toList

/-- A host with its socket, if that has a number. -/
def placeText (host : String) : Option Nat → String
  | none => host
  | some n => host ++ ":" ++ toString n

section Parts

variable {p : Char → Bool} {part host : String}

/-- What stands before a sign is too short to mean the whole, as decoding makes nothing longer. -/
theorem unescape?_front_ne {front back : List Char} {c : Char} (hpart : part.toList = front ++ c :: back) :
    unescape? (.ofList front) ≠ some part := by
  intro h
  have hlength := length_le_of_unescape? h
  rw [Text.encode_ofList] at hlength
  change (bytesOf part.toList).length ≤ (bytesOf front).length at hlength
  rw [hpart, WrittenUrl.length_bytesOf_append] at hlength
  have hsign := WrittenUrl.length_bytesOf_lt c back
  omega

/-- **A part that ends at the first of some signs** comes back as it is exactly if it holds none of them, and no
escape. -/
theorem unescape?_splitFirst_iff :
    unescape? (.ofList (splitFirst p part.toList).1) = some part ↔ Keeps p part := by
  by_cases hall : ∀ c ∈ part.toList, p c = false
  · rw [splitFirst_eq_self hall, String.ofList_toList, unescape?_eq_self_iff, Keeps, and_iff_right hall]
  · obtain ⟨front, c, back, hpart, hfront, hc⟩ := exists_first hall
    refine iff_of_false ?_ fun h => hall h.1
    rw [hpart, splitFirst_append hfront hc]
    exact unescape?_front_ne hpart

/-- Without a percent sign there is no escape to replace. -/
theorem isUnescaped_of_not_mem (h : '%' ∉ part.toList) : IsUnescaped part := by
  rintro x y - - ⟨front, back, hpart⟩
  rw [← hpart] at h
  simp at h

/-- The text of a number is its digits. -/
theorem toList_toString (n : Nat) : (toString n).toList = Nat.toDigits 10 n := Nat.toList_repr

/-- A number is read back from its text. -/
theorem number?_toString (n : Nat) : number? (toString n).toList = some n := by
  rw [toList_toString, number?, if_pos, Nat.ofDigitChars_ten_toDigits]
  rw [Bool.and_eq_true, List.all_eq_true]
  refine ⟨?_, fun c hc => Decimal.mem_toDigits hc⟩
  simp [Nat.toDigits_ne_nil]

/-- No sign stands among the digits of a number. -/
theorem digits_not_mem (n : Nat) {c : Char} (hc : c.isDigit = false) : c ∉ (toString n).toList := by
  rw [toList_toString]
  intro hmem
  rw [Decimal.mem_toDigits hmem] at hc
  cases hc

/-- A host and a socket are found where they were put. -/
theorem splitFirst_placeText (hhost : IsHost host) (socket : Option Nat) :
    splitFirst (· == ':') (placeText host socket).toList = (host.toList, socket.map fun n => (toString n).toList) := by
  have hcolon : ∀ c ∈ host.toList, (c == ':') = false := by
    intro c hc
    rw [beq_eq_false_iff_ne]
    rintro rfl
    exact hhost _ hc (by decide)
  cases socket with
  | none => exact splitFirst_eq_self hcolon
  | some n =>
    have htext : (placeText host (some n)).toList = host.toList ++ ':' :: (toString n).toList := by
      simp [placeText]
    rw [htext, splitFirst_append hcolon (by decide)]
    rfl

/-- None of the signs that end a place or a path is in the text of a place with a proper host. -/
theorem not_mem_placeText (hhost : IsHost host) (socket : Option Nat) {c : Char} (hc : c ∈ ['/', '@', '?', '#']) :
    c ∉ (placeText host socket).toList := by
  have hsign : c ∈ [':', '/', '@', '?', '#', '%'] ∧ c ≠ ':' ∧ c.isDigit = false := by
    simp only [List.mem_cons, List.not_mem_nil, or_false] at hc
    rcases hc with rfl | rfl | rfl | rfl <;> decide
  have hhost' : c ∉ host.toList := fun h => hhost c h hsign.1
  cases socket with
  | none => exact hhost'
  | some n =>
    have hdigits := digits_not_mem n hsign.2.2
    simp only [placeText, String.toList_append, List.mem_append, not_or]
    exact ⟨⟨hhost', by simpa using hsign.2.1⟩, hdigits⟩

/-- So nothing in it ends the authority. -/
theorem endsAuthority_placeText (hhost : IsHost host) (socket : Option Nat) :
    ∀ c ∈ (placeText host socket).toList, endsAuthority c = false := by
  intro c hc
  rw [← Bool.not_eq_true]
  intro hends
  have hsign : c ∈ ['/', '@', '?', '#'] := by
    simp only [endsAuthority, Bool.or_eq_true, beq_iff_eq] at hends
    rcases hends with (rfl | rfl) | rfl <;> decide
  exact not_mem_placeText hhost socket hsign hc

end Parts

/-! ## Addresses with and without credentials -/

section Whole

variable {host path : String} {socket : Option Nat}

/-- The place after the credentials, and the path, in an address that is taken apart. -/
theorem meaning?_place {front : List Char} (hhost : IsHost host)
    (hfront : WrittenUrl.placeOf front = splitFirst (· == ':') (placeText host socket).toList)
    (hinside : ∀ c ∈ front, endsAuthority c = false) (user : String) (password : Option String) :
    (WrittenUrl.ofText (front ++ '/' :: path.toList)).meaning? = some ⟨user, password, host, socket, path⟩ ↔
      unescape? (.ofList (WrittenUrl.credentialsOf front).1) = some user ∧
        optional? (unescape? <| .ofList ·) (WrittenUrl.credentialsOf front).2 = some password ∧
        Keeps WrittenUrl.endsPath path := by
  have hmeansHost : unescape? (.ofList host.toList) = some host := by
    rw [String.ofList_toList, unescape?_eq_self_iff]
    exact isUnescaped_of_not_mem fun hc => hhost _ hc (by decide)
  have hmeansSocket : optional? number? (socket.map fun n => (toString n).toList) = some socket := by
    cases socket with
    | none => rfl
    | some n => rw [Option.map_some, optional?, number?_toString, Option.map_some]
  rw [WrittenUrl.ofText_append hinside, WrittenUrl.meaning?_eq_some_iff, hfront, splitFirst_placeText hhost]
  dsimp only
  rw [unescape?_splitFirst_iff, and_iff_right hmeansHost, and_iff_right hmeansSocket]

/-- An address without credentials means its place exactly if the path keeps. -/
theorem meaning?_bare_iff (hhost : IsHost host) :
    (WrittenUrl.ofText ((placeText host socket).toList ++ '/' :: path.toList)).meaning? =
      some { host, socket, path } ↔ Keeps WrittenUrl.endsPath path := by
  have hsign : '@' ∉ (placeText host socket).toList := not_mem_placeText hhost socket (by decide)
  rw [meaning?_place hhost (WrittenUrl.placeOf_bare hsign) (endsAuthority_placeText hhost socket),
    WrittenUrl.credentialsOf_bare hsign]
  have hnobody : unescape? (.ofList []) = some "" := by decide +kernel
  have hnothing : optional? (unescape? <| .ofList ·) (none : Option (List Char)) = some none := rfl
  rw [and_iff_right hnobody, and_iff_right hnothing]

/-- Credentials whose user and password keep do not end the authority. -/
theorem credentials_inside {user password : String} (huser : Keeps endsUser user)
    (hpassword : Keeps endsAuthority password) :
    ∀ c ∈ user.toList ++ ':' :: password.toList, endsAuthority c = false := by
  intro c hc
  rcases List.mem_append.1 hc with hc | hc
  · exact (Bool.or_eq_false_iff.1 (huser.1 c hc)).2
  · rcases List.mem_cons.1 hc with rfl | hc
    · rfl
    · exact hpassword.1 c hc

/-- Credentials that are not cut short are parted where they were joined exactly if no colon is in the user. -/
theorem credentials_iff {user password : String}
    (hall : ∀ c ∈ user.toList ++ ':' :: password.toList, endsAuthority c = false) :
    (unescape? (.ofList (splitFirst (· == ':') (user.toList ++ ':' :: password.toList)).1) = some user ∧
        optional? (unescape? <| .ofList ·) (splitFirst (· == ':') (user.toList ++ ':' :: password.toList)).2 =
          some (some password)) ↔
      Keeps endsUser user ∧ Keeps endsAuthority password := by
  -- before the at sign nothing but the colon ends a user
  have hendsUser : ∀ c ∈ user.toList, endsUser c = (c == ':') := by
    intro c hc
    rw [endsUser, hall c (List.mem_append_left _ hc), Bool.or_false]
  have hpassword : Keeps endsAuthority password ↔ IsUnescaped password :=
    and_iff_right fun c hc => hall c (List.mem_append_right _ (List.mem_cons_of_mem _ hc))
  rw [optional?_eq_some_some, hpassword]
  -- with a colon in the user the split comes too early
  by_cases hcolon : ∀ c ∈ user.toList, (c == ':') = false
  · have huser : Keeps endsUser user ↔ IsUnescaped user :=
      and_iff_right fun c hc => (hendsUser c hc).trans (hcolon c hc)
    rw [splitFirst_append hcolon (by decide), String.ofList_toList, unescape?_eq_self_iff, huser]
    refine and_congr_right' ?_
    simp only [Option.some.injEq, exists_eq_left', String.ofList_toList, unescape?_eq_self_iff]
  · -- the user that is found is a proper part of the one that is meant
    refine iff_of_false ?_ ?_
    · rintro ⟨huser, -⟩
      obtain ⟨front, c, back, hparts, hfront, hc⟩ := exists_first hcolon
      rw [hparts, List.append_assoc, List.cons_append, splitFirst_append hfront hc] at huser
      exact unescape?_front_ne hparts huser
    · rintro ⟨huser, -⟩
      exact hcolon fun c hc => (hendsUser c hc).symm.trans (huser.1 c hc)

/-- **Credentials come back** exactly if nothing in them ends them, or the user, before they are over. -/
theorem meaning?_credentials_iff (hhost : IsHost host) {user password : String} :
    (WrittenUrl.ofText (user.toList ++ ':' :: password.toList ++
      '@' :: ((placeText host socket).toList ++ '/' :: path.toList))).meaning? =
        some ⟨user, some password, host, socket, path⟩ ↔
      Keeps endsUser user ∧ Keeps endsAuthority password ∧ Keeps WrittenUrl.endsPath path := by
  have hsign : '@' ∉ (placeText host socket).toList := not_mem_placeText hhost socket (by decide)
  -- nothing in the credentials ends the authority, so they are found whole
  by_cases hall : ∀ c ∈ user.toList ++ ':' :: password.toList, endsAuthority c = false
  · have hfront : user.toList ++ ':' :: password.toList ++
          '@' :: ((placeText host socket).toList ++ '/' :: path.toList) =
        user.toList ++ ':' :: password.toList ++ '@' :: (placeText host socket).toList ++ '/' :: path.toList := by simp
    have hinside : ∀ c ∈ user.toList ++ ':' :: password.toList ++ '@' :: (placeText host socket).toList,
        endsAuthority c = false := by
      intro c hc
      rcases List.mem_append.1 hc with hc | hc
      · exact hall c hc
      · rcases List.mem_cons.1 hc with rfl | hc
        · rfl
        · exact endsAuthority_placeText hhost socket c hc
    rw [hfront, meaning?_place hhost (WrittenUrl.placeOf_append _ hsign) hinside,
      WrittenUrl.credentialsOf_append _ hsign, ← and_assoc, ← and_assoc]
    exact and_congr_left' (credentials_iff hall)
  · -- the credentials are cut short: one of the two that are found is too short for what it should mean
    refine iff_of_false ?_ ?_
    · intro h
      obtain ⟨huser, hpassword, -⟩ := WrittenUrl.meaning?_eq_some_iff.1 h
      obtain ⟨found, hfound, hpassword⟩ := optional?_eq_some_some.1 hpassword
      have hcut := WrittenUrl.length_of_cut hall _ hfound
      have hlongUser := length_le_of_unescape? huser
      have hlongPassword := length_le_of_unescape? hpassword
      rw [Text.encode_ofList] at hlongUser hlongPassword
      change (bytesOf user.toList).length ≤ (bytesOf _).length at hlongUser
      change (bytesOf password.toList).length ≤ (bytesOf _).length at hlongPassword
      omega
    · rintro ⟨huser, hpassword, -⟩
      exact hall (credentials_inside huser hpassword)

/-- What comes after the mark of the scheme is taken apart, whatever the scheme, as long as the mark is not in it. -/
theorem readUrl?_of_scheme {scheme : List Char} (hscheme : ¬ schemeMark <:+: scheme) (cs : List Char) :
    readUrl? (.ofList (scheme ++ schemeMark ++ cs)) = (WrittenUrl.ofText cs).meaning? := by
  rw [readUrl?, String.toList_ofList, splitScheme?_append hscheme]
  rfl

/-- **The address of the database** leads back to its place exactly if each part keeps. -/
theorem readUrl?_url_iff {p : Storage.DatabasePlace} (hhost : IsHost p.host) :
    readUrl? p.url = some ⟨p.user, some p.password, p.host, some p.portNumber, p.name⟩ ↔
      Keeps endsUser p.user ∧ Keeps endsAuthority p.password ∧ Keeps WrittenUrl.endsPath p.name := by
  have hurl : p.url = .ofList ("postgres".toList ++ schemeMark ++ (p.user.toList ++ ':' :: p.password.toList ++
      '@' :: ((placeText p.host (some p.portNumber)).toList ++ '/' :: p.name.toList))) := by
    unfold Storage.DatabasePlace.url databaseUrl
    apply String.toList_inj.1
    simp [placeText, schemeMark]
  rw [hurl, readUrl?_of_scheme (by decide), meaning?_credentials_iff hhost]

/-- An empty part keeps. -/
theorem keeps_nil (p : Char → Bool) : Keeps p "" :=
  ⟨by simp, isUnescaped_of_not_mem (by simp)⟩

/-- A number keeps as a path, having only digits. -/
theorem keeps_toString (n : Nat) : Keeps WrittenUrl.endsPath (toString n) := by
  refine ⟨fun c hc => ?_, isUnescaped_of_not_mem (digits_not_mem n (by decide))⟩
  rw [← Bool.not_eq_true]
  intro hends
  simp only [WrittenUrl.endsPath, Bool.or_eq_true, beq_iff_eq] at hends
  rcases hends with rfl | rfl
  · exact digits_not_mem n (by decide) hc
  · exact digits_not_mem n (by decide) hc

/-- **The address of the cache** leads back to its place exactly if the password keeps. -/
theorem readUrl?_cacheUrl_iff (hhost : IsHost host) (password : Option String) (db : Nat) :
    readUrl? (cacheUrl (placeText host socket) password db) = some ⟨"", password, host, socket, toString db⟩ ↔
      ∀ w, password = some w → Keeps endsAuthority w := by
  -- without a password there are no credentials at all
  cases password with
  | none =>
    have hurl : cacheUrl (placeText host socket) none db =
        .ofList ("redis".toList ++ schemeMark ++ ((placeText host socket).toList ++ '/' :: (toString db).toList)) := by
      apply String.toList_inj.1
      simp [cacheUrl, schemeMark]
    rw [hurl, readUrl?_of_scheme (by decide), meaning?_bare_iff hhost]
    exact iff_of_true (keeps_toString db) (by simp)
  | some w =>
    have hurl : cacheUrl (placeText host socket) (some w) db =
        .ofList ("redis".toList ++ schemeMark ++ ("".toList ++ ':' :: w.toList ++
          '@' :: ((placeText host socket).toList ++ '/' :: (toString db).toList))) := by
      apply String.toList_inj.1
      simp [cacheUrl, schemeMark]
    rw [hurl, readUrl?_of_scheme (by decide), meaning?_credentials_iff hhost, and_iff_right (keeps_nil endsUser),
      and_iff_left (keeps_toString db)]
    simp

end Whole

/-! ## Places that are found again -/

/-- A place of the database with parts that keep. -/
structure KeepsParts (p : Storage.DatabasePlace) : Prop where
  host : IsHost p.host
  user : Keeps endsUser p.user
  password : Keeps endsAuthority p.password
  name : Keeps WrittenUrl.endsPath p.name

/-- Where the cache is. -/
structure CachePlace where
  host : String
  socket : Option Nat := none
  password : Option String := none
  db : Nat

namespace CachePlace

/-- The address of the place. -/
def url (c : CachePlace) : String := cacheUrl (placeText c.host c.socket) c.password c.db

/-- What the address means if it leads to the place. -/
def meaning (c : CachePlace) : Url := ⟨"", c.password, c.host, c.socket, toString c.db⟩

/-- A place of the cache with parts that keep. -/
structure KeepsParts (c : CachePlace) : Prop where
  host : IsHost c.host
  password : ∀ w, c.password = some w → Keeps endsAuthority w

/-- Different places of the cache mean different things. -/
theorem meaning_injective {c c' : CachePlace} (h : c.meaning = c'.meaning) : c = c' := by
  obtain ⟨host, socket, password, db⟩ := c
  obtain ⟨host', socket', password', db'⟩ := c'
  simp only [meaning, Url.mk.injEq, true_and] at h
  obtain ⟨rfl, rfl, rfl, hdb⟩ := h
  have hnumbers := congrArg (number? ·.toList) hdb
  rw [number?_toString, number?_toString, Option.some.injEq] at hnumbers
  rw [hnumbers]

end CachePlace

/-- What the address of a place of the database means if it leads to the place. -/
def meaning (p : Storage.DatabasePlace) : Url := ⟨p.user, some p.password, p.host, some p.portNumber, p.name⟩

/-- So do different places of the database. -/
theorem meaning_injective {p q : Storage.DatabasePlace} (h : meaning p = meaning q) : p = q := by
  obtain ⟨user, password, host, portNumber, name⟩ := p
  obtain ⟨user', password', host', portNumber', name'⟩ := q
  simp only [meaning, Url.mk.injEq, Option.some.injEq] at h
  obtain ⟨rfl, rfl, rfl, rfl, rfl⟩ := h
  rfl

/-- The address of the database leads back to its place exactly if its parts keep, in the words of `KeepsParts`. -/
theorem readUrl?_eq_meaning_iff {p : Storage.DatabasePlace} (hhost : IsHost p.host) :
    readUrl? p.url = some (meaning p) ↔ KeepsParts p :=
  (readUrl?_url_iff hhost).trans
    ⟨fun ⟨huser, hpassword, hname⟩ => ⟨hhost, huser, hpassword, hname⟩, fun h => ⟨h.user, h.password, h.name⟩⟩

/-- The address of the cache leads back to its place exactly if the password keeps, in the words of `KeepsParts`. -/
theorem CachePlace.readUrl?_eq_meaning_iff {c : CachePlace} (hhost : IsHost c.host) :
    readUrl? c.url = some c.meaning ↔ c.KeepsParts :=
  (readUrl?_cacheUrl_iff hhost c.password c.db).trans ⟨fun hpassword => ⟨hhost, hpassword⟩, fun h => h.password⟩

/-- **An address leads back to its place** exactly if no part holds a sign by which it ends, or an escape. Such places
are the same if their addresses are. -/
theorem addresses_lead_back_iff (p : Storage.DatabasePlace) (c : CachePlace) (hp : IsHost p.host)
    (hc : IsHost c.host) :
    (readUrl? p.url = some (meaning p) ↔ KeepsParts p) ∧
    (readUrl? c.url = some c.meaning ↔ c.KeepsParts) ∧
    (KeepsParts p → ∀ q : Storage.DatabasePlace, KeepsParts q → p.url = q.url → p = q) ∧
    (c.KeepsParts → ∀ d : CachePlace, d.KeepsParts → c.url = d.url → c = d) := by
  have hplace := readUrl?_eq_meaning_iff hp
  have hcache := CachePlace.readUrl?_eq_meaning_iff hc
  refine ⟨hplace, hcache, ?_, ?_⟩
  · intro hkeeps q hq hurl
    have hread := hplace.2 hkeeps
    rw [hurl, (readUrl?_eq_meaning_iff hq.host).2 hq, Option.some.injEq] at hread
    exact (meaning_injective hread).symm
  · intro hkeeps d hd hurl
    have hread := hcache.2 hkeeps
    rw [hurl, (CachePlace.readUrl?_eq_meaning_iff hd.host).2 hd, Option.some.injEq] at hread
    exact (CachePlace.meaning_injective hread).symm

/-- A password may hold colons and at signs, and a percent sign that is no escape. -/
theorem password_with_signs_leads_back :
    IsHost "db.example" ∧ IsHost "cache" ∧
      readUrl? (Storage.DatabasePlace.url ⟨"us@r", "p:@ss 100%", "db.example", 5432, "a/b"⟩) =
        some ⟨"us@r", some "p:@ss 100%", "db.example", some 5432, "a/b"⟩ ∧
      readUrl? (cacheUrl "cache:6379" (some "p:@ss 100%") 3) =
        some ⟨"", some "p:@ss 100%", "cache", some 6379, "3"⟩ := by
  have hplace : IsHost "db.example" := by decide
  have hcache : IsHost "cache" := by decide
  obtain ⟨hdatabase, hcacheUrl, -⟩ := addresses_lead_back_iff ⟨"us@r", "p:@ss 100%", "db.example", 5432, "a/b"⟩
    ⟨"cache", some 6379, some "p:@ss 100%", 3⟩ hplace hcache
  refine ⟨hplace, hcache, ?_, ?_⟩
  · exact hdatabase.2 ⟨hplace, by decide +kernel, by decide +kernel, by decide +kernel⟩
  · refine hcacheUrl.2 ⟨hcache, fun w hw => ?_⟩
    rw [← Option.some.inj hw]
    decide +kernel

/-- An escape in a user is replaced, so that somebody else asks, and a colon may stand in the user or in the password:
one address is made of two places. -/
theorem escaped_user_is_lost :
    (¬ ∀ p : Storage.DatabasePlace, IsHost p.host →
      readUrl? p.url = some ⟨p.user, some p.password, p.host, some p.portNumber, p.name⟩) ∧
    ∃ p q : Storage.DatabasePlace, IsHost p.host ∧ IsHost q.host ∧ p ≠ q ∧ p.url = q.url := by
  refine ⟨fun h => ?_, ⟨"a", "b:c", "h", 5432, "d"⟩, ⟨"a:b", "c", "h", 5432, "d"⟩, by decide, by decide, ?_, ?_⟩
  · have hhost : IsHost "127.0.0.1" := by decide
    have huser := ((readUrl?_url_iff hhost).1 (h ⟨"a%62c", "x", "127.0.0.1", 5432, "d"⟩ hhost)).1
    exact huser.2 '6' '2' (by decide) (by decide) (by decide)
  · simp
  · decide +kernel

end Phrasebook.Settings
