import TriviaStore.Text.Word

/-! # Database addresses

An address names a driver, then perhaps a user, a host and a port, then the database behind a slash
and options behind a question mark. The driver is a word or several joined by plus signs; the
database is written with percent escapes.
-/

namespace TriviaStore.Database

/-- The parts of an address. The options are not read. -/
structure Url where
  driver : String
  user : Option String
  password : Option String
  host : Option String
  port : Option String
  database : Option String
  deriving DecidableEq, Repr

/-! ## Percent escapes -/

def hexDigit? (c : Char) : Option Nat :=
  if c.isDigit then some (c.toNat - 48)
  else if 'a' ≤ c ∧ c ≤ 'f' then some (c.toNat - 87)
  else if 'A' ≤ c ∧ c ≤ 'F' then some (c.toNat - 55)
  else none

/-- The bounds of the second byte of a longer sequence, by its first byte. -/
def secondByteBounds (b : Nat) : Nat × Nat :=
  if b = 0xe0 then (0xa0, 0xbf)
  else if b = 0xed then (0x80, 0x9f)
  else if b = 0xf0 then (0x90, 0xbf)
  else if b = 0xf4 then (0x80, 0x8f)
  else (0x80, 0xbf)

/-- How many bytes follow a first byte, none if it cannot be one. -/
def sequenceLength? (b : Nat) : Option Nat :=
  if b < 0x80 then some 0
  else if 0xc2 ≤ b ∧ b ≤ 0xdf then some 1
  else if 0xe0 ≤ b ∧ b ≤ 0xef then some 2
  else if 0xf0 ≤ b ∧ b ≤ 0xf4 then some 3
  else none

/-- The bits that a first byte contributes. -/
def leadBits (following b : Nat) : Nat :=
  match following with
  | 0 => b
  | 1 => b % 0x20
  | 2 => b % 0x10
  | _ => b % 0x08

/-- Read the bytes that must follow, within bounds for the next of them; whether all were there. -/
def takeFollowing : Nat → Nat × Nat → Nat → List UInt8 → Bool × Nat × List UInt8
  | 0, _, code, bytes => (true, code, bytes)
  | _ + 1, _, code, [] => (false, code, [])
  | n + 1, (low, high), code, b :: bytes =>
    if low ≤ b.toNat ∧ b.toNat ≤ high then
      takeFollowing n (0x80, 0xbf) (code * 64 + b.toNat % 64) bytes
    else (false, code, b :: bytes)

theorem length_takeFollowing_le (n : Nat) (bounds : Nat × Nat) (code : Nat) (bytes : List UInt8) :
    (takeFollowing n bounds code bytes).2.2.length ≤ bytes.length := by
  induction bytes generalizing n bounds code with
  | nil => cases n <;> simp [takeFollowing]
  | cons b bytes ih =>
    cases n with
    | zero => simp [takeFollowing]
    | succ n =>
      simp only [takeFollowing]
      split
      · have := ih n (0x80, 0xbf) (code * 64 + b.toNat % 64)
        simp only [List.length_cons]
        omega
      · simp

/-- What stands for bytes that are no text. -/
def replacement : Char := Char.ofNat 0xfffd

/-- The text of UTF-8 bytes. What is malformed is replaced, as far as it could have gone well. -/
def decodeBytes (bytes : List UInt8) : List Char :=
  match bytes with
  | [] => []
  | b :: rest =>
    match sequenceLength? b.toNat with
    | none => replacement :: decodeBytes rest
    | some n =>
      let r := takeFollowing n (secondByteBounds b.toNat) (leadBits n b.toNat) rest
      (if r.1 then Char.ofNat r.2.1 else replacement) :: decodeBytes r.2.2
termination_by bytes.length
decreasing_by
  · simp
  · have := length_takeFollowing_le n (secondByteBounds b.toNat) (leadBits n b.toNat) rest
    simp only [List.length_cons]
    omega

/-- The text with its percent escapes replaced by what they encode, given the bytes of the escapes
right before it. -/
def unescapePercent (pending : List UInt8) : List Char → List Char
  | '%' :: h :: l :: s =>
    match hexDigit? h, hexDigit? l with
    | some h', some l' => unescapePercent (pending ++ [UInt8.ofNat (h' * 16 + l')]) s
    | _, _ => decodeBytes pending ++ '%' :: unescapePercent [] (h :: l :: s)
  | c :: s => decodeBytes pending ++ c :: unescapePercent [] s
  | [] => decodeBytes pending

/-- A text with its percent escapes replaced. -/
def percentDecoded (s : List Char) : String := String.ofList (unescapePercent [] s)

/-! ## Parts -/

/-- The part of a text before a separator and the part behind it. -/
def splitAt? (separator : Char) (s : List Char) : Option (List Char × List Char) :=
  match s.dropWhile (· != separator) with
  | [] => none
  | _ :: rest => some (s.takeWhile (· != separator), rest)

/-- The driver at the front of an address, and the text behind the colon and the slashes. -/
def driver? (s : List Char) : Option (List Char × List Char) :=
  let isDriverChar := fun c => Text.isWordChar c || c == '+'
  match s.takeWhile isDriverChar, s.dropWhile isDriverChar with
  | [], _ => none
  | name, ':' :: '/' :: '/' :: rest => some (name, rest)
  | _, _ => none

/-- The user and the password before an at sign, and the text behind it. -/
def credentials (s : List Char) : Option (List Char) × Option (List Char) × List Char :=
  let run := s.takeWhile fun c => c != ':' && c != '/'
  let alone := match run.reverse.dropWhile (· != '@') with
    | [] => (none, none, s)
    | _ :: before => (some before.reverse, none, s.drop (before.length + 1))
  match s.drop run.length with
  | ':' :: r =>
    match splitAt? '@' r with
    | some (password, rest) => (some run, some password, rest)
    | none => alone
  | _ => alone

/-- The host, in brackets or not, and the text behind it. -/
def hostOf (s : List Char) : Option (List Char) × List Char :=
  let plain := fun (s : List Char) =>
    match s.takeWhile (fun c => c != '/' && c != ':' && c != '?') with
    | [] => (none, s)
    | h => (some h, s.drop h.length)
  match s with
  | '[' :: r =>
    let inside := r.takeWhile fun c => c != '/' && c != '?'
    match inside.reverse.dropWhile (· != ']') with
    | _ :: c :: before => (some (c :: before).reverse, r.drop (before.length + 2))
    | _ => plain s
  | _ => plain s

/-- The port behind a colon, and the text behind it. -/
def portOf (s : List Char) : Option (List Char) × List Char :=
  match s with
  | ':' :: r =>
    let p := r.takeWhile fun c => c != '/' && c != '?'
    (some p, r.drop p.length)
  | _ => (none, s)

/-- The database behind a slash, up to the options. -/
def databaseOf (s : List Char) : Option (List Char) :=
  match s with
  | '/' :: r => some (r.takeWhile (· != '?'))
  | _ => none

def Url.parse? (address : String) : Option Url := do
  let (name, s) ← driver? address.toList
  let (user, password, s) := credentials s
  let (host, s) := hostOf s
  let (port, s) := portOf s
  pure {
    driver := String.ofList name
    user := user.map fun u => percentDecoded u
    password := password.map fun p => percentDecoded p
    host := host.map String.ofList
    port := port.map String.ofList
    database := (databaseOf s).map fun d => percentDecoded d }

/-- Whether an address says where a server is, or who asks it. -/
def Url.namesServer (u : Url) : Bool :=
  u.user.getD "" != "" || u.password.getD "" != "" || u.host.getD "" != "" || u.port.getD "" != ""

/-- The address without its options, and with the password hidden. -/
def Url.shown (u : Url) : String :=
  let user := u.user.getD ""
  let login := if user = "" then "" else
    user ++ (if u.password.isSome then ":***" else "") ++ "@"
  let place := u.host.getD "" ++ (u.port.map (":" ++ ·)).getD ""
  u.driver ++ "://" ++ login ++ place ++ (u.database.map ("/" ++ ·)).getD ""

end TriviaStore.Database
