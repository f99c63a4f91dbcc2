import Mathlib.Data.Vector.Basic
import Rathole.Constants
import Rathole.Lib.Stream

/-!
# The Wire Protocol

The binary half of `protocol.rs`: the messages of a handshake and the
commands that follow it, as `bincode` lays them out. An enum is its tag as
four bytes, lowest first, and then its fields; a digest is its 32 bytes.

Bytes are symbols of an alphabet. A symbol has a value, the byte a reader
sees, and there is one for each byte. Concrete bytes are one such alphabet.
Another has symbols of its own for what nobody can guess, nonces, secrets and
digests, and keeps them apart from everything they might be mistaken for.

The length a reader waits for is that of one sample message, computed once.
All messages of a type have it (`Hello.codec` and the other codecs).

## Main definitions

* `Alphabet`: Symbols, their values, and a digest over them.
* `Hello`, `Auth`, `Ack`, `ControlChannelCmd`, `DataChannelCmd`: The messages.
* `PacketLength`: The lengths the readers wait for.
* `ReadError`: What a reader can fail with, apart from the connection.
* `readHello`, `readAuth`, `readAck`, `readControlCmd`, `readDataCmd`: The
  readers.

## Theorems

* `readHello_serialize`: A hello of the current version is read back.
* `readAuth_serialize`, `readAck_serialize`: So are an auth and an ack.
* `mem_of_readHello`, `mem_of_readAuth`: What is read was there.
-/

namespace Rathole

open ByteStream

/-- `Digest`: 32 symbols. -/
abbrev Digest (β : Type) := List.Vector β hashWidthInBytes

/-- The symbols a stream is made of, the bytes among them, the byte a symbol
    is read as, and the digest of a sequence of symbols. -/
structure Alphabet (β : Type) where
  byte : UInt8 → β
  value : β → UInt8
  value_byte : ∀ b, value (byte b) = b
  digest : List β → Digest β

/-- A name, a token and a nonce for runs on concrete bytes. -/
def sampleName : List UInt8 := [115, 115, 104]

/-- The bytes of `token`. -/
def sampleToken : List UInt8 := [116, 111, 107, 101, 110]

/-- The numbers from 1 to 32. -/
def sampleNonce : Digest UInt8 :=
  ⟨[1, 2, 3, 4, 5, 6, 7, 8, 9, 10, 11, 12, 13, 14, 15, 16,
    17, 18, 19, 20, 21, 22, 23, 24, 25, 26, 27, 28, 29, 30, 31, 32], rfl⟩

/-- SHA-256 of the name. -/
def sampleServiceDigest : Digest UInt8 :=
  ⟨[127, 90, 85, 207, 63, 136, 190, 147, 111, 185, 68, 2, 73, 203, 68, 159,
    48, 103, 204, 238, 75, 82, 93, 0, 39, 220, 146, 120, 162, 156, 50, 193], rfl⟩

/-- SHA-256 of the token followed by the nonce. -/
def sampleSessionKey : Digest UInt8 :=
  ⟨[246, 119, 222, 154, 203, 35, 246, 133, 236, 102, 228, 149, 19, 10, 114, 110,
    60, 127, 156, 114, 160, 137, 171, 43, 137, 149, 245, 231, 148, 52, 212, 163], rfl⟩

/-- Bytes as they are. The digest is that of SHA-256 on the name and on the
    token followed by the nonce, the only places where the runs below ask
    for it. -/
def plainBytes : Alphabet UInt8 where
  byte := id
  value := id
  value_byte := fun _ => rfl
  digest := fun bs =>
    if bs = sampleName then sampleServiceDigest
    else if bs = sampleToken ++ sampleNonce.toList then sampleSessionKey
    else List.Vector.replicate hashWidthInBytes 0

/-- `CURRENT_PROTO_VERSION` -/
def currentProtoVersion : UInt8 := 1

/-- `Hello` -/
inductive Hello (β : Type)
  | controlChannelHello (version : UInt8) (digest : Digest β)
  | dataChannelHello (version : UInt8) (digest : Digest β)
deriving DecidableEq

/-- `Auth` -/
structure Auth (β : Type) where
  digest : Digest β
deriving DecidableEq

/-- `Ack` -/
inductive Ack
  | ok
  | serviceNotExist
  | authFailed
deriving DecidableEq, Repr

/-- The text of an acknowledgement. -/
def Ack.display : Ack → String
  | .ok => "Ok"
  | .serviceNotExist => "Service not exist"
  | .authFailed => "Incorrect token"

/-- `ControlChannelCmd` -/
inductive ControlChannelCmd
  | createDataChannel
  | heartBeat
deriving DecidableEq, Repr

/-- `DataChannelCmd` -/
inductive DataChannelCmd
  | startForwardTcp
  | startForwardUdp
deriving DecidableEq, Repr

variable {β : Type} (A : Alphabet β)

/-! ### Layout -/

/-- A 32-bit number, lowest byte first. -/
def Alphabet.u32 (n : Nat) : List β :=
  [A.byte (UInt8.ofNat n), A.byte (UInt8.ofNat (n / 2 ^ 8)), A.byte (UInt8.ofNat (n / 2 ^ 16)),
    A.byte (UInt8.ofNat (n / 2 ^ 24))]

/-- The number four symbols stand for. -/
def Alphabet.readU32 (b0 b1 b2 b3 : β) : Nat :=
  (A.value b0).toNat + (A.value b1).toNat * 2 ^ 8 + (A.value b2).toNat * 2 ^ 16 +
    (A.value b3).toNat * 2 ^ 24

/-- Take a tag off a message. -/
def Alphabet.readTag : List β → Option (Nat × List β)
  | b0 :: b1 :: b2 :: b3 :: rest => some (A.readU32 b0 b1 b2 b3, rest)
  | _ => none

/-- Take a digest off a message. -/
def readDigest (bs : List β) : Option (Digest β) :=
  if h : hashWidthInBytes ≤ bs.length then
    some ⟨bs.take hashWidthInBytes, by rw [List.length_take]; omega⟩
  else none

/-- A hello on the wire. -/
def Hello.serialize : Hello β → List β
  | .controlChannelHello v d => A.u32 0 ++ A.byte v :: d.toList
  | .dataChannelHello v d => A.u32 1 ++ A.byte v :: d.toList

/-- The hello of a message. -/
def Hello.deserialize (bs : List β) : Option (Hello β) :=
  match A.readTag bs with
  | some (0, v :: rest) => (readDigest rest).map (.controlChannelHello (A.value v))
  | some (1, v :: rest) => (readDigest rest).map (.dataChannelHello (A.value v))
  | _ => none

/-- An `Auth` on the wire. -/
def Auth.serialize (a : Auth β) : List β := a.digest.toList

/-- The `Auth` of a message. -/
def Auth.deserialize (bs : List β) : Option (Auth β) := (readDigest bs).map Auth.mk

/-- An enum without fields is its tag. -/
def serializeTag {γ : Type} (tag : γ → Nat) (x : γ) : List β := A.u32 (tag x)

/-- The value of a message that is a tag alone. -/
def deserializeTag {γ : Type} (ofTag : Nat → Option γ) (bs : List β) : Option γ :=
  (A.readTag bs).bind (fun p => ofTag p.1)

/-- The index of the variant. -/
def Ack.tag : Ack → Nat
  | .ok => 0
  | .serviceNotExist => 1
  | .authFailed => 2

/-- The variant of an index. -/
def Ack.ofTag : Nat → Option Ack
  | 0 => some .ok
  | 1 => some .serviceNotExist
  | 2 => some .authFailed
  | _ => none

/-- The index of the variant. -/
def ControlChannelCmd.tag : ControlChannelCmd → Nat
  | .createDataChannel => 0
  | .heartBeat => 1

/-- The variant of an index. -/
def ControlChannelCmd.ofTag : Nat → Option ControlChannelCmd
  | 0 => some .createDataChannel
  | 1 => some .heartBeat
  | _ => none

/-- The index of the variant. -/
def DataChannelCmd.tag : DataChannelCmd → Nat
  | .startForwardTcp => 0
  | .startForwardUdp => 1

/-- The variant of an index. -/
def DataChannelCmd.ofTag : Nat → Option DataChannelCmd
  | 0 => some .startForwardTcp
  | 1 => some .startForwardUdp
  | _ => none

/-- The lengths the readers wait for. -/
structure PacketLength where
  hello : Nat
  ack : Nat
  auth : Nat
  cCmd : Nat
  dCmd : Nat
deriving DecidableEq, Repr

/-- `PacketLength::new`: the lengths of one sample message of each type. -/
def PacketLength.new : PacketLength :=
  let username := [100, 101, 102, 97, 117, 108, 116].map A.byte
  let d := A.digest username
  { hello := ((Hello.controlChannelHello currentProtoVersion d).serialize A).length
    ack := (serializeTag A Ack.tag .ok).length
    auth := (Auth.mk d).serialize.length
    cCmd := (serializeTag A ControlChannelCmd.tag .createDataChannel).length
    dCmd := (serializeTag A DataChannelCmd.tag .startForwardTcp).length }

/-! ### The layout is a codec -/

theorem length_u32 (n : Nat) : (A.u32 n).length = 4 := rfl

theorem readU32_u32 {n : Nat} (h : n < 2 ^ 32) :
    A.readU32 (A.byte (UInt8.ofNat n)) (A.byte (UInt8.ofNat (n / 2 ^ 8)))
      (A.byte (UInt8.ofNat (n / 2 ^ 16))) (A.byte (UInt8.ofNat (n / 2 ^ 24))) = n := by
  simp only [Alphabet.readU32, A.value_byte, UInt8.toNat_ofNat']
  omega

theorem readTag_u32 {n : Nat} (h : n < 2 ^ 32) (rest : List β) :
    A.readTag (A.u32 n ++ rest) = some (n, rest) := by
  simp only [Alphabet.u32, List.cons_append, List.nil_append, Alphabet.readTag]
  rw [readU32_u32 A h]

theorem readDigest_toList (d : Digest β) : readDigest d.toList = some d := by
  have hlen : d.toList.length = hashWidthInBytes := d.toList_length
  unfold readDigest
  rw [dif_pos (by omega)]
  congr 1
  apply List.Vector.eq
  exact List.take_of_length_le (by omega)

theorem length_serialize_hello (h : Hello β) : (h.serialize A).length = 37 := by
  cases h with
  | controlChannelHello v d =>
      simp only [Hello.serialize, List.length_append, length_u32, List.length_cons,
        List.Vector.toList_length]
      rfl
  | dataChannelHello v d =>
      simp only [Hello.serialize, List.length_append, length_u32, List.length_cons,
        List.Vector.toList_length]
      rfl

theorem deserialize_serialize_hello (h : Hello β) :
    Hello.deserialize A (h.serialize A) = some h := by
  cases h with
  | controlChannelHello v d =>
      simp only [Hello.serialize, Hello.deserialize]
      rw [readTag_u32 A (by omega)]
      simp only [readDigest_toList, Option.map_some, A.value_byte]
  | dataChannelHello v d =>
      simp only [Hello.serialize, Hello.deserialize]
      rw [readTag_u32 A (by omega)]
      simp only [readDigest_toList, Option.map_some, A.value_byte]

/-- A hello on the wire. The reader waits for the length of the sample. -/
def Hello.codec : FixedCodec (Hello β) β where
  width := (PacketLength.new A).hello
  encode := fun h => h.serialize A
  decode := Hello.deserialize A
  length_encode := by
    intro h
    exact (length_serialize_hello A h).trans (length_serialize_hello A _).symm
  decode_encode := deserialize_serialize_hello A

/-- An auth on the wire. -/
def Auth.codec : FixedCodec (Auth β) β where
  width := (PacketLength.new A).auth
  encode := Auth.serialize
  decode := Auth.deserialize
  length_encode := by
    intro a
    exact a.digest.toList_length.trans (List.Vector.toList_length _).symm
  decode_encode := by
    intro a
    simp only [Auth.serialize, Auth.deserialize, readDigest_toList, Option.map_some]

/-- An enum without fields on the wire, if its tags are told apart. -/
def tagCodec {γ : Type} (tag : γ → Nat) (ofTag : Nat → Option γ)
    (hlt : ∀ x, tag x < 2 ^ 32) (hinv : ∀ x, ofTag (tag x) = some x) : FixedCodec γ β where
  width := 4
  encode := serializeTag A tag
  decode := deserializeTag A ofTag
  length_encode := fun _ => rfl
  decode_encode := by
    intro x
    have htag := readTag_u32 A (hlt x) []
    rw [List.append_nil] at htag
    rw [deserializeTag, serializeTag, htag, Option.bind_some, hinv]

/-- An ack on the wire. -/
def Ack.codec : FixedCodec Ack β :=
  tagCodec A Ack.tag Ack.ofTag (fun x => by cases x <;> decide) (fun x => by cases x <;> rfl)

/-- A control command on the wire. -/
def ControlChannelCmd.codec : FixedCodec ControlChannelCmd β :=
  tagCodec A ControlChannelCmd.tag ControlChannelCmd.ofTag (fun x => by cases x <;> decide)
    (fun x => by cases x <;> rfl)

/-- A data channel command on the wire. -/
def DataChannelCmd.codec : FixedCodec DataChannelCmd β :=
  tagCodec A DataChannelCmd.tag DataChannelCmd.ofTag (fun x => by cases x <;> decide)
    (fun x => by cases x <;> rfl)

/-- The codecs have the lengths the readers wait for. -/
theorem packetLength_new : PacketLength.new A =
    { hello := (Hello.codec A).width, ack := (Ack.codec A).width,
      auth := (Auth.codec A).width, cCmd := (ControlChannelCmd.codec A).width,
      dCmd := (DataChannelCmd.codec A).width } := rfl

/-! ### The readers -/

/-- What a reader fails with when the bytes are there. -/
inductive ReadError
  | deserialize (what : String)
  | versionMismatched (expected got : UInt8)
deriving DecidableEq, Repr

/-- The text of a read error. -/
def ReadError.display : ReadError → String
  | .deserialize what => "Failed to deserialize " ++ what
  | .versionMismatched expected got => "Protocol version mismatched. Expected " ++
      toString expected ++ ", got " ++ toString got ++ ". Please update `rathole`."

/-- Reading one message: `none` while bytes are missing, then the message or
    the failure, and the bytes after it. -/
def readMessage {γ : Type} (c : FixedCodec γ β) (what : String) (bs : List β) :
    Option (Except ReadError γ × List β) :=
  (c.read bs).map (fun p => (match p.1 with
    | some x => .ok x
    | none => .error (.deserialize what), p.2))

/-- The version of a hello, whichever it is. -/
def Hello.version : Hello β → UInt8
  | .controlChannelHello v _ => v
  | .dataChannelHello v _ => v

/-- The digest of a hello, a service's or a session key. -/
def Hello.digest : Hello β → Digest β
  | .controlChannelHello _ d => d
  | .dataChannelHello _ d => d

/-- `read_hello`, which also checks the version. -/
def readHello (bs : List β) : Option (Except ReadError (Hello β) × List β) :=
  (readMessage (Hello.codec A) "hello" bs).map (fun p => (match p.1 with
    | .ok h => if h.version = currentProtoVersion then .ok h
      else .error (.versionMismatched currentProtoVersion h.version)
    | .error e => .error e, p.2))

/-- `read_auth` -/
def readAuth (bs : List β) : Option (Except ReadError (Auth β) × List β) :=
  readMessage (Auth.codec A) "auth" bs

/-- `read_ack` -/
def readAck (bs : List β) : Option (Except ReadError Ack × List β) :=
  readMessage (Ack.codec A) "ack" bs

/-- `read_control_cmd` -/
def readControlCmd (bs : List β) : Option (Except ReadError ControlChannelCmd × List β) :=
  readMessage (ControlChannelCmd.codec A) "control cmd" bs

/-- `read_data_cmd` -/
def readDataCmd (bs : List β) : Option (Except ReadError DataChannelCmd × List β) :=
  readMessage (DataChannelCmd.codec A) "data cmd" bs

theorem readMessage_encode {γ : Type} (c : FixedCodec γ β) (what : String) (x : γ)
    (rest : List β) : readMessage c what (c.encode x ++ rest) = some (.ok x, rest) := by
  rw [readMessage, c.read_encode, Option.map_some]

/-- A hello of the current version is read back. -/
theorem readHello_serialize {h : Hello β} (hv : h.version = currentProtoVersion)
    (rest : List β) : readHello A (h.serialize A ++ rest) = some (.ok h, rest) := by
  have hread : readMessage (Hello.codec A) "hello" (h.serialize A ++ rest) = some (.ok h, rest) :=
    readMessage_encode (Hello.codec A) "hello" h rest
  rw [readHello, hread]
  simp only [Option.map_some, hv, if_true]

/-- A reader waits for the whole message. -/
theorem le_of_readMessage {γ : Type} {c : FixedCodec γ β} {what : String} {bs : List β}
    {p : Except ReadError γ × List β} (h : readMessage c what bs = some p) :
    c.width ≤ bs.length := by
  rw [readMessage, Option.map_eq_some_iff] at h
  rcases h with ⟨q, hq, _⟩
  exact c.le_of_read hq

theorem le_of_readHello {bs : List β} {p : Except ReadError (Hello β) × List β}
    (h : readHello A bs = some p) : (Hello.codec A).width ≤ bs.length := by
  rw [readHello, Option.map_eq_some_iff] at h
  rcases h with ⟨q, hq, _⟩
  exact le_of_readMessage hq

theorem readAuth_serialize (a : Auth β) (rest : List β) :
    readAuth A (a.serialize ++ rest) = some (.ok a, rest) :=
  readMessage_encode (Auth.codec A) "auth" a rest

theorem readAck_serialize (a : Ack) (rest : List β) :
    readAck A (serializeTag A Ack.tag a ++ rest) = some (.ok a, rest) :=
  readMessage_encode (Ack.codec A) "ack" a rest

/-- What is read does not depend on what comes later. -/
theorem readMessage_append {γ : Type} {c : FixedCodec γ β} {what : String} {bs rest : List β}
    {r : Except ReadError γ} (h : readMessage c what bs = some (r, rest)) (more : List β) :
    readMessage c what (bs ++ more) = some (r, rest ++ more) := by
  rw [readMessage, Option.map_eq_some_iff] at h
  rcases h with ⟨⟨x, rest'⟩, hread, heq⟩
  rw [Prod.mk.injEq] at heq
  rw [readMessage, c.read_append hread more, Option.map_some, ← heq.1, ← heq.2]

/-- From the beginning of a stream whose first message is known, no other
    message is read, and nothing is garbled. -/
theorem readMessage_of_isPrefix {γ : Type} {c : FixedCodec γ β} {what : String} {x : γ}
    {bs tail : List β} {p : Except ReadError γ × List β} (hpre : bs <+: c.encode x ++ tail)
    (h : readMessage c what bs = some p) : p.1 = .ok x ∧ bs = c.encode x ++ p.2 := by
  rw [readMessage, Option.map_eq_some_iff] at h
  rcases h with ⟨q, hq, heq⟩
  rcases c.read_of_isPrefix hpre hq with ⟨hx, hbs⟩
  rw [← heq]
  simp only [hx]
  exact ⟨trivial, hbs⟩

theorem readHello_of_isPrefix {h : Hello β} (hv : h.version = currentProtoVersion)
    {bs tail : List β} {p : Except ReadError (Hello β) × List β}
    (hpre : bs <+: h.serialize A ++ tail) (hread : readHello A bs = some p) :
    p.1 = .ok h ∧ bs = h.serialize A ++ p.2 := by
  rw [readHello, Option.map_eq_some_iff] at hread
  rcases hread with ⟨q, hq, heq⟩
  rcases readMessage_of_isPrefix (c := Hello.codec A) hpre hq with ⟨hx, hbs⟩
  rw [← heq]
  simp only [hx, hv, if_true]
  exact ⟨trivial, hbs⟩

/-! ### Where the symbols come from -/

theorem mem_of_u32 {n : Nat} {x : β} (hx : x ∈ A.u32 n) : ∃ b, x = A.byte b := by
  simp only [Alphabet.u32, List.mem_cons, List.not_mem_nil, or_false] at hx
  rcases hx with hx | hx | hx | hx
  · exact ⟨_, hx⟩
  · exact ⟨_, hx⟩
  · exact ⟨_, hx⟩
  · exact ⟨_, hx⟩

/-- A hello consists of bytes and its digest. -/
theorem mem_of_serialize_hello {h : Hello β} {x : β} (hx : x ∈ h.serialize A) :
    (∃ b, x = A.byte b) ∨ x ∈ h.digest.toList := by
  have hsplit : ∀ (n : Nat) (v : UInt8) (d : Digest β), x ∈ A.u32 n ++ A.byte v :: d.toList →
      (∃ b, x = A.byte b) ∨ x ∈ d.toList := by
    intro n v d hin
    rcases List.mem_append.mp hin with hin | hin
    · exact Or.inl (mem_of_u32 A hin)
    · rcases List.mem_cons.mp hin with hin | hin
      · exact Or.inl ⟨v, hin⟩
      · exact Or.inr hin
  cases h with
  | controlChannelHello v d => exact hsplit 0 v d hx
  | dataChannelHello v d => exact hsplit 1 v d hx

theorem mem_of_readMessage {γ : Type} {c : FixedCodec γ β} {what : String} {bs rest : List β}
    {r : Except ReadError γ} (h : readMessage c what bs = some (r, rest)) :
    ∃ buf, bs = buf ++ rest ∧ ∀ x, r = .ok x → c.decode buf = some x := by
  unfold readMessage FixedCodec.read at h
  cases hread : readExact c.width bs with
  | none => simp only [hread, Option.map_none, reduceCtorEq] at h
  | some p =>
      rcases p with ⟨buf, rest'⟩
      rw [readExact_eq_some_iff] at hread
      simp only [readExact_eq_some_iff.mpr hread, Option.map_some, Option.some.injEq,
        Prod.mk.injEq] at h
      refine ⟨buf, by rw [← h.2]; exact hread.1, fun x hx => ?_⟩
      cases hd : c.decode buf with
      | none =>
          rw [hx, hd] at h
          simp only [reduceCtorEq, false_and] at h
      | some y =>
          rw [hx, hd] at h
          simp only [Except.ok.injEq] at h
          rw [h.1]

theorem mem_of_readTag {bs rest : List β} {n : Nat} (h : A.readTag bs = some (n, rest)) {x : β}
    (hx : x ∈ rest) : x ∈ bs := by
  match bs, h with
  | b0 :: b1 :: b2 :: b3 :: rest', h =>
      simp only [Alphabet.readTag, Option.some.injEq, Prod.mk.injEq] at h
      rw [← h.2] at hx
      simp only [List.mem_cons, hx, or_true]

theorem mem_of_readDigest {bs : List β} {d : Digest β} (h : readDigest bs = some d) {x : β}
    (hx : x ∈ d.toList) : x ∈ bs := by
  unfold readDigest at h
  split at h
  · have hd := Option.some.inj h
    rw [← hd] at hx
    exact List.mem_of_mem_take hx
  · simp only [reduceCtorEq] at h

/-- The digest of a hello consists of symbols that were read. -/
theorem mem_of_deserialize_hello {bs : List β} {h : Hello β} (hd : Hello.deserialize A bs = some h)
    {x : β} (hx : x ∈ h.digest.toList) : x ∈ bs := by
  unfold Hello.deserialize at hd
  split at hd
  · rename_i v rest htag
    rw [Option.map_eq_some_iff] at hd
    rcases hd with ⟨d, hdig, hh⟩
    rw [← hh] at hx
    exact mem_of_readTag A htag (List.mem_cons_of_mem _ (mem_of_readDigest hdig hx))
  · rename_i v rest htag
    rw [Option.map_eq_some_iff] at hd
    rcases hd with ⟨d, hdig, hh⟩
    rw [← hh] at hx
    exact mem_of_readTag A htag (List.mem_cons_of_mem _ (mem_of_readDigest hdig hx))
  · simp only [reduceCtorEq] at hd

/-- A hello that was read, and the bytes left over, are part of what there
    was. -/
theorem mem_of_readHello {bs rest : List β} {r : Except ReadError (Hello β)}
    (h : readHello A bs = some (r, rest)) :
    (∀ x ∈ rest, x ∈ bs) ∧ ∀ m, r = .ok m → ∀ x ∈ m.digest.toList, x ∈ bs := by
  rw [readHello, Option.map_eq_some_iff] at h
  rcases h with ⟨⟨r', rest'⟩, hread, heq⟩
  rcases mem_of_readMessage hread with ⟨buf, hbs, hdec⟩
  simp only [Prod.mk.injEq] at heq
  rw [hbs, ← heq.2]
  refine ⟨fun x hx => List.mem_append_right _ hx, fun m hm x hx => ?_⟩
  cases hr : r' with
  | error e =>
      rw [hr, hm] at heq
      simp only [reduceCtorEq, false_and] at heq
  | ok m' =>
      -- The version was right, so the message is the one that was decoded.
      rw [hr, hm] at heq
      have hmm : m' = m := by
        by_cases hv : m'.version = currentProtoVersion
        · simp only [if_pos hv, Except.ok.injEq] at heq
          exact heq.1
        · simp only [if_neg hv, reduceCtorEq, false_and] at heq
      rw [← hmm] at hx
      exact List.mem_append_left _ (mem_of_deserialize_hello A (hdec m' hr) hx)

theorem mem_of_readAuth {bs rest : List β} {r : Except ReadError (Auth β)}
    (h : readAuth A bs = some (r, rest)) :
    (∀ x ∈ rest, x ∈ bs) ∧ ∀ a, r = .ok a → ∀ x ∈ a.digest.toList, x ∈ bs := by
  rcases mem_of_readMessage h with ⟨buf, hbs, hdec⟩
  rw [hbs]
  refine ⟨fun x hx => List.mem_append_right _ hx, fun a ha x hx => ?_⟩
  have hd := hdec a ha
  simp only [Auth.codec, Auth.deserialize, Option.map_eq_some_iff] at hd
  rcases hd with ⟨d, hdig, had⟩
  rw [← had] at hx
  exact List.mem_append_left _ (mem_of_readDigest hdig hx)

end Rathole
