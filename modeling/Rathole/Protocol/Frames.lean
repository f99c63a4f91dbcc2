import Rathole.Lib.Reader
import Rathole.Protocol.Udp

/-!
# Frames Read Back

Both binary formats of the protocol over a stream that hands its bytes over in
chunks of its own choosing. Datagrams carry two lengths, the messages of a
handshake and the commands carry none; of either, what was written one after
another is read one after another, and nothing beyond it is touched.

The readers are those of `Wire` and `Udp` with their awaits spelled out: which
bytes they wait for, and how they go on from them. On whole bytes they do what
the readers there do (`run_messageReader` and the theorems after it), and
`Reader.runChunks_flatten` carries that over to chunks.

For the messages there is also a converse. Bytes that a reader takes for a
message are the bytes of that message and of no other, since a tag determines
its four bytes and a digest is copied.

## Main definitions

* `WriteCall`: A datagram given to one of the two writers.
* `UdpTraffic.reader`: What both receiving loops do once.
* `bytesWith`: Bytes as they are, with any digest.
* `Packet`: A message or command of any kind.
* `Packet.reader`: The reader that belongs to its kind.

## Theorems

* `datagrams_read_back`: The round trip of datagrams.
* `FixedCodec.Exact`: Only encodings are decoded.
* `readMessage_eq_ok_iff`, `readHello_eq_ok_iff`: What a reader succeeds on.
* `messages_read_back`: The round trip of messages, and its converse.
-/

namespace Rathole

open ByteStream

/-! ### Datagrams -/

namespace Client

namespace Udp

/-- A call of one of the two writers. -/
inductive WriteCall
  | write (t : UdpTraffic SocketAddr)
  | writeSlice (source : SocketAddr) (data : List UInt8)
deriving DecidableEq

/-- What a call puts on the stream. -/
def WriteCall.bytes : WriteCall → List UInt8
  | .write t => t.write
  | .writeSlice source data => UdpTraffic.writeSlice source data

/-- The datagram that is written. -/
def WriteCall.datagram : WriteCall → UdpTraffic SocketAddr
  | .write t => t
  | .writeSlice source data => { source := source, data := data }

/-- `read_u8`, and `UdpTraffic::read` with what it returned. -/
def UdpTraffic.reader : Reader UInt8 (Except ReadError (UdpTraffic SocketAddr)) :=
  .byte (fun hdrLen => .exact hdrLen.toNat (fun buf => match UdpHeader.deserialize buf with
    | none => .done (.error (.deserialize "UdpHeader"))
    | some hdr => .exact hdr.len.toNat (fun data =>
        .done (.ok { source := hdr.source, data := data }))))

theorem UdpTraffic.run_reader (bs : List UInt8) : reader.run bs = readFrame bs := by
  cases bs with
  | nil => rfl
  | cons hdrLen bs =>
      simp only [reader, Reader.run, readFrame, read]
      rcases hbuf : readExact hdrLen.toNat bs with _ | ⟨buf, rest⟩
      · rfl
      · simp only [Option.bind_some]
        rcases hhdr : UdpHeader.deserialize buf with _ | hdr
        · rfl
        · simp only [Reader.run]
          rcases readExact hdr.len.toNat rest with _ | ⟨data, rest'⟩
          · rfl
          · rfl

theorem UdpTraffic.writeSlice_eq_write (source : SocketAddr) (data : List UInt8) :
    writeSlice source data = write { source := source, data := data } := rfl

theorem WriteCall.bytes_eq_write (c : WriteCall) : c.bytes = c.datagram.write := by
  cases c <;> rfl

/-- Datagrams with addresses the wire carries whole, and with payloads whose
    length fits its field, come out as they were given to either writer, from
    any chunks of the bytes and whatever follows them. -/
theorem datagrams_read_back (calls : List WriteCall)
    (hfit : ∀ c ∈ calls, c.datagram.source.Plain ∧ c.datagram.data.length ≤ 65535)
    (more : List UInt8) (chunks : List (List UInt8))
    (hchunks : chunks.flatten = calls.flatMap WriteCall.bytes ++ more) :
    (∃ rest, (Reader.seq (calls.map (fun _ => UdpTraffic.reader))).runChunks chunks =
      some (.ok (calls.map WriteCall.datagram), rest) ∧ rest.flatten = more) ∧
    ∀ source data, UdpTraffic.writeSlice source data =
      UdpTraffic.write { source := source, data := data } := by
  refine ⟨Reader.runChunks_seq (fun c hc rest => ?_) hchunks, UdpTraffic.writeSlice_eq_write⟩
  rcases hfit c hc with ⟨hplain, hlen⟩
  have hcompact : c.datagram.compact = c.datagram := by
    rw [UdpTraffic.compact, SocketAddr.compact_of_plain hplain]
  rw [UdpTraffic.run_reader, c.bytes_eq_write, UdpTraffic.readFrame_write (by omega), hcompact]

/-- Two datagrams, the second of them empty, with one byte more, cut within
    the first header and within its payload. -/
theorem datagrams_read_back_cut :
    (∃ rest, (Reader.seq [UdpTraffic.reader, UdpTraffic.reader]).runChunks
        [[12, 0], [0, 0, 0, 127, 0, 0, 1, 136, 19, 2, 0, 7], [8, 12, 0, 0, 0, 0, 127, 0],
          [0, 1, 137, 19, 0, 0, 9]] =
      some (.ok [⟨.v4 ⟨[127, 0, 0, 1], rfl⟩ 5000, [7, 8]⟩,
        ⟨.v4 ⟨[127, 0, 0, 1], rfl⟩ 5001, []⟩], rest) ∧ rest.flatten = [9]) ∧
    ∀ source data, UdpTraffic.writeSlice source data =
      UdpTraffic.write { source := source, data := data } :=
  datagrams_read_back [.write ⟨.v4 ⟨[127, 0, 0, 1], rfl⟩ 5000, [7, 8]⟩,
    .writeSlice (.v4 ⟨[127, 0, 0, 1], rfl⟩ 5001) []] (by decide) [9] _ (by decide)

end Udp

end Client

/-! ### Messages -/

variable {β γ : Type} (A : Alphabet β)

theorem value_of_byte (b : UInt8) : id (id b) = b := rfl

/-- Bytes as they are. The readers compare no digests, so any will do. -/
def bytesWith (digest : List UInt8 → Digest UInt8) : Alphabet UInt8 where
  byte := id
  value := id
  value_byte := value_of_byte
  digest := digest

/-- Waiting for one message and decoding it. -/
def messageReader (c : FixedCodec γ β) (what : String) : Reader β (Except ReadError γ) :=
  .exact c.width (fun buf => .done (match c.decode buf with
    | some x => .ok x
    | none => .error (.deserialize what)))

/-- `read_hello`, which also checks the version. -/
def helloReader : Reader β (Except ReadError (Hello β)) :=
  (messageReader (Hello.codec A) "hello").bind (fun r => .done (match r with
    | .ok h => if h.version = currentProtoVersion then .ok h
      else .error (.versionMismatched currentProtoVersion h.version)
    | .error e => .error e))

/-- A message or command of any kind. -/
inductive Packet (β : Type)
  | hello (h : Hello β)
  | auth (a : Auth β)
  | ack (a : Ack)
  | controlCmd (cmd : ControlChannelCmd)
  | dataCmd (cmd : DataChannelCmd)
deriving DecidableEq

/-- The bytes of a message of either kind. -/
def Packet.serialize : Packet β → List β
  | .hello h => h.serialize A
  | .auth a => a.serialize
  | .ack a => serializeTag A Ack.tag a
  | .controlCmd cmd => serializeTag A ControlChannelCmd.tag cmd
  | .dataCmd cmd => serializeTag A DataChannelCmd.tag cmd

/-- The reader of a message's kind, which knows nothing else of it. -/
def Packet.reader : Packet β → Reader β (Except ReadError (Packet β))
  | .hello _ => (helloReader A).bind (fun r => .done (r.map .hello))
  | .auth _ => (messageReader (Auth.codec A) "auth").bind (fun r => .done (r.map .auth))
  | .ack _ => (messageReader (Ack.codec A) "ack").bind (fun r => .done (r.map .ack))
  | .controlCmd _ => (messageReader (ControlChannelCmd.codec A) "control cmd").bind
      (fun r => .done (r.map .controlCmd))
  | .dataCmd _ => (messageReader (DataChannelCmd.codec A) "data cmd").bind
      (fun r => .done (r.map .dataCmd))

/-- A hello of the current version; of the others, all. -/
def Packet.Current : Packet β → Prop
  | .hello h => h.version = currentProtoVersion
  | _ => True

instance (m : Packet β) : Decidable m.Current := by
  unfold Packet.Current
  split
  all_goals infer_instance

theorem run_messageReader (c : FixedCodec γ β) (what : String) (bs : List β) :
    (messageReader c what).run bs = readMessage c what bs := by
  rw [messageReader, Reader.run, readMessage, FixedCodec.read]
  rcases readExact c.width bs with _ | ⟨buf, rest⟩
  · rfl
  · rfl

theorem run_helloReader (bs : List β) : (helloReader A).run bs = readHello A bs := by
  rw [helloReader, Reader.run_bind, run_messageReader, readHello]
  rcases readMessage (Hello.codec A) "hello" bs with _ | ⟨r, rest⟩
  · rfl
  · rfl

theorem run_mapped_messageReader {δ : Type} (c : FixedCodec γ β) (what : String) (f : γ → δ)
    (x : γ) (rest : List β) : ((messageReader c what).bind (fun r => .done (r.map f))).run
      (c.encode x ++ rest) = some (.ok (f x), rest) := by
  rw [Reader.run_bind, run_messageReader, readMessage_encode]
  rfl

/-- A message is read back by the reader of its kind. -/
theorem Packet.run_reader {m : Packet β} (h : m.Current) (rest : List β) :
    (m.reader A).run (m.serialize A ++ rest) = some (.ok m, rest) := by
  cases m with
  | hello hello =>
      rw [reader, serialize, Reader.run_bind, run_helloReader, readHello_serialize A h]
      rfl
  | auth a => exact run_mapped_messageReader (Auth.codec A) "auth" Packet.auth a rest
  | ack a => exact run_mapped_messageReader (Ack.codec A) "ack" Packet.ack a rest
  | controlCmd cmd =>
      exact run_mapped_messageReader (ControlChannelCmd.codec A) "control cmd"
        Packet.controlCmd cmd rest
  | dataCmd cmd =>
      exact run_mapped_messageReader (DataChannelCmd.codec A) "data cmd" Packet.dataCmd cmd rest

/-! ### Nothing else is read -/

section Exact

variable {A} (hA : ∀ b, A.byte (A.value b) = b)
include hA

/-- The four bytes of a number are determined by it. -/
theorem u32_readU32 (b0 b1 b2 b3 : β) : A.u32 (A.readU32 b0 b1 b2 b3) = [b0, b1, b2, b3] := by
  have h0 := (A.value b0).toNat_lt
  have h1 := (A.value b1).toNat_lt
  have h2 := (A.value b2).toNat_lt
  have h3 := (A.value b3).toNat_lt
  have hbyte : ∀ (b : β) (n : Nat), n % 2 ^ 8 = (A.value b).toNat → A.byte (UInt8.ofNat n) = b := by
    intro b n hn
    have hval : UInt8.ofNat n = A.value b := by
      apply UInt8.toNat_inj.mp
      rw [UInt8.toNat_ofNat', hn]
    rw [hval, hA]
  simp only [Alphabet.u32, Alphabet.readU32]
  rw [hbyte b0 _ (by omega), hbyte b1 _ (by omega), hbyte b2 _ (by omega), hbyte b3 _ (by omega)]

theorem readTag_eq_some {bs rest : List β} {n : Nat} (h : A.readTag bs = some (n, rest)) :
    bs = A.u32 n ++ rest := by
  match bs, h with
  | b0 :: b1 :: b2 :: b3 :: rest', h =>
      simp only [Alphabet.readTag, Option.some.injEq, Prod.mk.injEq] at h
      rw [← h.1, ← h.2, u32_readU32 hA]
      rfl

omit hA in
theorem readDigest_eq_some {bs : List β} {d : Digest β} (hlen : bs.length = hashWidthInBytes)
    (h : readDigest bs = some d) : bs = d.toList := by
  unfold readDigest at h
  rw [dif_pos (by omega)] at h
  rw [← Option.some.inj h]
  exact (List.take_of_length_le (by omega)).symm

theorem hello_exact : (Hello.codec A).Exact := by
  intro bs h hlen hd
  have hwidth : (Hello.codec A).width = 37 := length_serialize_hello A _
  rw [hwidth] at hlen
  -- What comes after the tag is the version and exactly a digest.
  have hsplit : ∀ {n : Nat} {v : β} {rest : List β} {d : Digest β},
      A.readTag bs = some (n, v :: rest) → readDigest rest = some d →
      bs = A.u32 n ++ A.byte (A.value v) :: d.toList := by
    intro n v rest d htag hdig
    have hbs := readTag_eq_some hA htag
    have hrest : rest.length = hashWidthInBytes := by
      rw [hbs, List.length_append, length_u32, List.length_cons] at hlen
      rw [hashWidthInBytes]
      omega
    rw [hbs, hA, readDigest_eq_some hrest hdig]
  simp only [Hello.codec, Hello.deserialize] at hd ⊢
  split at hd
  · rename_i v rest htag
    rcases Option.map_eq_some_iff.mp hd with ⟨d, hdig, hh⟩
    rw [hsplit htag hdig, ← hh, Hello.serialize]
  · rename_i v rest htag
    rcases Option.map_eq_some_iff.mp hd with ⟨d, hdig, hh⟩
    rw [hsplit htag hdig, ← hh, Hello.serialize]
  · simp only [reduceCtorEq] at hd

omit hA in
theorem auth_exact : (Auth.codec A).Exact := by
  intro bs a hlen hd
  have hwidth : (Auth.codec A).width = hashWidthInBytes := List.Vector.toList_length _
  rw [hwidth] at hlen
  simp only [Auth.codec, Auth.deserialize] at hd ⊢
  rcases Option.map_eq_some_iff.mp hd with ⟨d, hdig, ha⟩
  rw [readDigest_eq_some hlen hdig, ← ha, Auth.serialize]

/-- An enum without fields, if a tag stands for one value only. -/
theorem tagCodec_exact {tag : γ → Nat} {ofTag : Nat → Option γ} {hlt : ∀ x, tag x < 2 ^ 32}
    {hinv : ∀ x, ofTag (tag x) = some x} (htag : ∀ n x, ofTag n = some x → n = tag x) :
    (tagCodec A tag ofTag hlt hinv).Exact := by
  intro bs x hlen hd
  simp only [tagCodec, deserializeTag, serializeTag] at hlen hd ⊢
  rcases Option.bind_eq_some_iff.mp hd with ⟨⟨n, rest⟩, hread, hof⟩
  have hbs := readTag_eq_some hA hread
  have hrest : rest = [] := by
    rw [hbs, List.length_append, length_u32] at hlen
    exact List.eq_nil_of_length_eq_zero (by omega)
  rw [hbs, hrest, List.append_nil, htag n x hof]

theorem ack_exact : (Ack.codec A).Exact := by
  refine tagCodec_exact hA (fun n x h => ?_)
  unfold Ack.ofTag at h
  split at h
  all_goals cases h
  all_goals rfl

theorem controlCmd_exact : (ControlChannelCmd.codec A).Exact := by
  refine tagCodec_exact hA (fun n x h => ?_)
  unfold ControlChannelCmd.ofTag at h
  split at h
  all_goals cases h
  all_goals rfl

theorem dataCmd_exact : (DataChannelCmd.codec A).Exact := by
  refine tagCodec_exact hA (fun n x h => ?_)
  unfold DataChannelCmd.ofTag at h
  split at h
  all_goals cases h
  all_goals rfl

omit hA in
/-- A reader succeeds on the bytes of a message and on no others. -/
theorem readMessage_eq_ok_iff {c : FixedCodec γ β} (hc : c.Exact) {what : String}
    {bs rest : List β} {x : γ} :
    readMessage c what bs = some (.ok x, rest) ↔ bs = c.encode x ++ rest := by
  rw [← c.read_eq_some_iff hc, readMessage, Option.map_eq_some_iff]
  constructor
  · intro h
    rcases h with ⟨⟨r, rest'⟩, hread, heq⟩
    simp only [Prod.mk.injEq] at heq
    cases r with
    | none => simp only [reduceCtorEq, false_and] at heq
    | some y =>
        simp only [Except.ok.injEq] at heq
        rw [hread, heq.1, heq.2]
  · intro h
    exact ⟨(some x, rest), h, rfl⟩

theorem readHello_eq_ok_iff {bs rest : List β} {h : Hello β} :
    readHello A bs = some (.ok h, rest) ↔
      bs = h.serialize A ++ rest ∧ h.version = currentProtoVersion := by
  constructor
  · intro hread
    rw [readHello, Option.map_eq_some_iff] at hread
    rcases hread with ⟨⟨r, rest'⟩, hmsg, heq⟩
    simp only [Prod.mk.injEq] at heq
    cases r with
    | error e => simp only [reduceCtorEq, false_and] at heq
    | ok h' =>
        by_cases hv : h'.version = currentProtoVersion
        · simp only [if_pos hv, Except.ok.injEq] at heq
          rw [heq.1, heq.2] at hmsg
          rw [heq.1] at hv
          exact ⟨(readMessage_eq_ok_iff (hello_exact hA)).mp hmsg, hv⟩
        · simp only [if_neg hv, reduceCtorEq, false_and] at heq
  · intro hbs
    rw [hbs.1]
    exact readHello_serialize A hbs.2 rest

end Exact

section

variable (digest : List UInt8 → Digest UInt8)

/-- Messages and commands of any kinds, the hellos among them of the current
    version, come out as they were written, each at the reader of its kind,
    from any chunks of the bytes and whatever follows them. A reader succeeds
    only on the bytes of a message of its type, and then returns it. -/
theorem messages_read_back (ms : List (Packet UInt8)) (hcurrent : ∀ m ∈ ms, m.Current)
    (more : List UInt8) (chunks : List (List UInt8))
    (hchunks : chunks.flatten = ms.flatMap (Packet.serialize (bytesWith digest)) ++ more) :
    (∃ rest, (Reader.seq (ms.map (Packet.reader (bytesWith digest)))).runChunks chunks =
      some (.ok ms, rest) ∧ rest.flatten = more) ∧
    (∀ bs rest h, readHello (bytesWith digest) bs = some (.ok h, rest) ↔
      bs = h.serialize (bytesWith digest) ++ rest ∧ h.version = currentProtoVersion) ∧
    (∀ bs rest a, readAuth (bytesWith digest) bs = some (.ok a, rest) ↔
      bs = a.serialize ++ rest) ∧
    (∀ bs rest a, readAck (bytesWith digest) bs = some (.ok a, rest) ↔
      bs = serializeTag (bytesWith digest) Ack.tag a ++ rest) ∧
    (∀ bs rest cmd, readControlCmd (bytesWith digest) bs = some (.ok cmd, rest) ↔
      bs = serializeTag (bytesWith digest) ControlChannelCmd.tag cmd ++ rest) ∧
    ∀ bs rest cmd, readDataCmd (bytesWith digest) bs = some (.ok cmd, rest) ↔
      bs = serializeTag (bytesWith digest) DataChannelCmd.tag cmd ++ rest := by
  have hA : ∀ b, (bytesWith digest).byte ((bytesWith digest).value b) = b := fun _ => rfl
  refine ⟨?_, fun _ _ _ => readHello_eq_ok_iff hA, fun _ _ _ => readMessage_eq_ok_iff auth_exact,
    fun _ _ _ => readMessage_eq_ok_iff (ack_exact hA),
    fun _ _ _ => readMessage_eq_ok_iff (controlCmd_exact hA),
    fun _ _ _ => readMessage_eq_ok_iff (dataCmd_exact hA)⟩
  have hread : ∃ rest, (Reader.seq (ms.map (Packet.reader (bytesWith digest)))).runChunks chunks =
      some (.ok (ms.map id), rest) ∧ rest.flatten = more :=
    Reader.runChunks_seq
      (fun m hm rest => Packet.run_reader (bytesWith digest) (hcurrent m hm) rest) hchunks
  rw [List.map_id] at hread
  exact hread

/-- A hello, an ack and a command with one byte more, the second cut in two. -/
theorem messages_read_back_cut :
    ∃ rest, (Reader.seq [Packet.reader plainBytes (.hello (.controlChannelHello 1 sampleNonce)),
        Packet.reader plainBytes (.ack .ok),
        Packet.reader plainBytes (.dataCmd .startForwardUdp)]).runChunks
        [Packet.serialize plainBytes (.hello (.controlChannelHello 1 sampleNonce)) ++ [0, 0],
          [0, 0, 1], [0, 0, 0, 9]] =
      some (.ok [.hello (.controlChannelHello 1 sampleNonce), .ack .ok,
        .dataCmd .startForwardUdp], rest) ∧ rest.flatten = [9] :=
  (messages_read_back plainBytes.digest [.hello (.controlChannelHello 1 sampleNonce), .ack .ok,
    .dataCmd .startForwardUdp] (by decide) [9] _ (by decide)).1

end

end Rathole
