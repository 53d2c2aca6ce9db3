import HesaiLidar.Library.ByteSource
import HesaiLidar.Library.ByteOrder

/-!
# The TCP command client

Reading one command from the sensor's TCP connection: `sys_readn` of `util.c` and the framing of
`tcp_command_client.c`. The connection is a stream that arrives in pieces.
-/

namespace HesaiLidar

open ByteSource

/-! ### sys_readn -/

/-- What `sys_readn` returns, what it has stored, and the connection it leaves. -/
structure SysReadn where
  ret : Int
  stored : List UInt8
  connfd : Source UInt8

/-- The loop of `sys_readn`, for `n` bytes of which `nleft` are missing. -/
def sysReadnLoop (n nleft : Int) (stored : List UInt8) (connfd : Source UInt8) : SysReadn :=
  if 0 < nleft then
    match call : connfd.read nleft.toNat with
    | (.error, rest) => ⟨-1, stored, rest⟩
    | (.interrupted, rest) => sysReadnLoop n nleft stored rest
    | (.endOfStream, rest) => ⟨n - nleft, stored, rest⟩
    | (.got items, rest) => sysReadnLoop n (nleft - items.length) (stored ++ items) rest
  else ⟨n - nleft, stored, connfd⟩
termination_by nleft.toNat + connfd.arriving.length
decreasing_by
  · have pieces := Source.read_interrupted (by omega) call
    omega
  · have progress := Source.read_got (by omega) call
    omega

def sysReadn (connfd : Source UInt8) (n : Int) : SysReadn := sysReadnLoop n n [] connfd

/-! ### Commands -/

structure TcpCommandHeader where
  cmd : UInt8
  retCode : UInt8
  len : UInt32
  deriving DecidableEq

/-- `data` is none for the null pointer. -/
structure TcCommand where
  header : TcpCommandHeader
  data : Option (List UInt8)

/-- The buffer after bytes have been stored from `start` on. -/
def store (buffer : Nat → UInt8) (start : Nat) (bytes : List UInt8) : Nat → UInt8 := fun i =>
  if start ≤ i then bytes.getD (i - start) (buffer i) else buffer i

def tcpCommandHeaderParser (buffer : Nat → UInt8) : TcpCommandHeader where
  cmd := buffer 0
  retCode := buffer 1
  len :=
    (buffer 2).toUInt32 <<< 24 ||| (buffer 3).toUInt32 <<< 16 ||| (buffer 4).toUInt32 <<< 8 ||| (buffer 5).toUInt32

/-- Reading one command into a buffer that holds `stale` bytes; none where the function returns -1. The length
is passed on as an `int`, and the number of bytes read compared with it as an `unsigned int`. -/
def tcpCommandReadCommand (stale : Nat → UInt8) (connfd : Source UInt8) : Option (TcCommand × Source UInt8) :=
  let magic := sysReadn connfd 2
  let buffer := store stale 0 magic.stored
  if magic.ret ≤ 0 ∨ buffer 0 ≠ 0x47 ∨ buffer 1 ≠ 0x74 then none
  else
    let fields := sysReadn magic.connfd 6
    let buffer := store buffer 2 fields.stored
    if fields.ret ≠ 6 then none
    else
      let header := tcpCommandHeaderParser fun i => buffer (2 + i)
      let payload := sysReadn fields.connfd header.len.toInt32.toInt
      if UInt32.ofInt payload.ret ≠ header.len then none
      else some (⟨header, if 0 < header.len then some payload.stored else none⟩, payload.connfd)

def tcpCommandBuildHeader (cmd : TcCommand) : List UInt8 :=
  [0x47, 0x74, cmd.header.cmd, cmd.header.retCode, (cmd.header.len >>> 24 &&& 0xff).toUInt8,
    (cmd.header.len >>> 16 &&& 0xff).toUInt8, (cmd.header.len >>> 8 &&& 0xff).toUInt8, (cmd.header.len &&& 0xff).toUInt8]

/-! ### sys_readn on a fragmented stream -/

/-- What `sys_readn` for `n` bytes comes to, by what the connection still delivers. -/
inductive SysReads (stream : List UInt8) (ending : Ending) (n : Nat) : SysReadn → Prop
  | enough {stored : List UInt8} {rest : Source UInt8} (split : stream = stored ++ rest.stream)
      (length : stored.length = n) (same : rest.ending = ending) : SysReads stream ending n ⟨n, stored, rest⟩
  | short {ret : Int} {rest : Source UInt8} (few : stream.length < n) (atLeast : -1 ≤ ret) (less : ret < n) (empty : rest.stream = [])
      (same : rest.ending = ending) : SysReads stream ending n ⟨ret, stream, rest⟩

variable {n nleft : Int} {stored : List UInt8} {connfd : Source UInt8}

theorem sysReadnLoop_cases {count : Nat} (nonneg : 0 ≤ nleft) (missing : (count : Int) = stored.length + nleft) :
    SysReads (stored ++ connfd.stream) connfd.ending count (sysReadnLoop count nleft stored connfd) := by
  fun_induction sysReadnLoop count nleft stored connfd with
  | case1 nleft stored connfd wanted rest call =>
    have positive : 0 < nleft.toNat := by omega
    cases Source.reads_of_call positive call with
    | error empty =>
      rw [empty, List.append_nil]
      exact .short (by omega) (by omega) (by omega) empty rfl
  | case2 nleft stored connfd wanted rest call ih =>
    have positive : 0 < nleft.toNat := by omega
    cases Source.reads_of_call positive call with
    | interrupted stream ending =>
      rw [← stream, ← ending]
      exact ih nonneg missing
  | case3 nleft stored connfd wanted rest call =>
    have positive : 0 < nleft.toNat := by omega
    cases Source.reads_of_call positive call with
    | endOfStream empty =>
      rw [empty, List.append_nil]
      exact .short (by omega) (by omega) (by omega) empty rfl
  | case4 nleft stored connfd wanted items rest call ih =>
    have positive : 0 < nleft.toNat := by omega
    cases Source.reads_of_call positive call with
    | got some few stream ending =>
      rw [stream, ← ending, ← List.append_assoc]
      refine ih (by omega) ?_
      rw [List.length_append]
      omega
  | case5 nleft stored connfd done =>
    obtain rfl : nleft = 0 := by omega
    rw [Int.sub_zero]
    exact .enough rfl (by omega) rfl

/-- However the stream is cut up, `sys_readn` gets its next bytes, or all that is left if that is less. -/
theorem sysReadn_cases (connfd : Source UInt8) (n : Nat) :
    SysReads connfd.stream connfd.ending n (sysReadn connfd n) := by
  have loop := @sysReadnLoop_cases n [] connfd n (Int.natCast_nonneg n) (by simp)
  rwa [List.nil_append] at loop

theorem sysReadn_of_nonpos (nonpos : n ≤ 0) : sysReadn connfd n = ⟨0, [], connfd⟩ := by
  rw [sysReadn, sysReadnLoop, if_neg (by omega), Int.sub_self]

/-! ### Headers -/

/-- A 32-bit number, most significant byte first. -/
def bigEndian (len : UInt32) : List UInt8 := ByteOrder.encode true 4 len.toNat

theorem length_bigEndian (len : UInt32) : (bigEndian len).length = 4 := ByteOrder.encode_length ..

theorem toNat_shifted (b : UInt8) {k : Nat} (width : k ≤ 24) :
    (b.toUInt32 <<< UInt32.ofNat k).toNat = b.toNat <<< k := by
  have small := b.toNat_lt
  have power : 2 ^ k ≤ 2 ^ 24 := Nat.pow_le_pow_right (by decide) width
  rw [UInt32.toNat_shiftLeft, UInt8.toNat_toUInt32, UInt32.toNat_ofNat', Nat.mod_eq_of_lt (a := k) (by omega),
    Nat.mod_eq_of_lt (a := k) (by omega)]
  refine Nat.mod_eq_of_lt ?_
  rw [Nat.shiftLeft_eq]
  calc b.toNat * 2 ^ k < 2 ^ 8 * 2 ^ k := Nat.mul_lt_mul_of_pos_right small (Nat.two_pow_pos k)
    _ ≤ 2 ^ 8 * 2 ^ 24 := Nat.mul_le_mul_left _ power
    _ = 2 ^ 32 := rfl

theorem toNat_parsed (b₃ b₂ b₁ b₀ : UInt8) :
    (b₃.toUInt32 <<< 24 ||| b₂.toUInt32 <<< 16 ||| b₁.toUInt32 <<< 8 ||| b₀.toUInt32).toNat =
      ByteOrder.decode true [b₃, b₂, b₁, b₀] := by
  have reversed : ByteOrder.decode true [b₃, b₂, b₁, b₀] = ByteOrder.ofLE [b₀, b₁, b₂, b₃] := rfl
  have high : (b₃.toUInt32 <<< 24).toNat = b₃.toNat <<< 24 := toNat_shifted b₃ (k := 24) (by decide)
  have upper : (b₂.toUInt32 <<< 16).toNat = b₂.toNat <<< 16 := toNat_shifted b₂ (k := 16) (by decide)
  have lower : (b₁.toUInt32 <<< 8).toNat = b₁.toNat <<< 8 := toNat_shifted b₁ (k := 8) (by decide)
  rw [reversed, ByteOrder.ofLE_four, UInt32.toNat_or, UInt32.toNat_or, UInt32.toNat_or, high, upper, lower,
    UInt8.toNat_toUInt32]
  rw [Nat.or_comm _ b₀.toNat, Nat.or_comm _ (b₁.toNat <<< 8), Nat.or_comm (b₃.toNat <<< 24), ← Nat.or_assoc,
    ← Nat.or_assoc]

theorem decode_bigEndian (len : UInt32) : ByteOrder.decode true (bigEndian len) = len.toNat :=
  ByteOrder.decode_encode len.toNat_lt

theorem toUInt8_and_mask (len : UInt32) : (len &&& 0xff).toUInt8 = UInt8.ofNat len.toNat := by
  rw [← UInt8.toNat_inj, UInt32.toNat_toUInt8, UInt32.toNat_and, UInt8.toNat_ofNat']
  show (len.toNat &&& (2 ^ 8 - 1)) % 2 ^ 8 = len.toNat % 2 ^ 8
  rw [Nat.and_two_pow_sub_one_eq_mod, Nat.mod_mod]

theorem tcpCommandBuildHeader_eq (cmd : TcCommand) :
    tcpCommandBuildHeader cmd =
      0x47 :: 0x74 :: cmd.header.cmd :: cmd.header.retCode :: bigEndian cmd.header.len := by
  have shift (k : Nat) (width : k < 32) : (cmd.header.len >>> UInt32.ofNat k).toNat = cmd.header.len.toNat / 2 ^ k := by
    rw [UInt32.toNat_shiftRight, UInt32.toNat_ofNat', Nat.mod_eq_of_lt (a := k) (by omega),
      Nat.mod_eq_of_lt width, Nat.shiftRight_eq_div_pow]
  have ordered : bigEndian cmd.header.len =
      [.ofNat (cmd.header.len.toNat / 2 ^ 24), .ofNat (cmd.header.len.toNat / 2 ^ 16),
        .ofNat (cmd.header.len.toNat / 2 ^ 8), .ofNat cmd.header.len.toNat] := by
    show [UInt8.ofNat (_ / 256 / 256 / 256), .ofNat (_ / 256 / 256), .ofNat (_ / 256), .ofNat _] = _
    simp only [Nat.div_div_eq_div_mul]
    rfl
  rw [ordered, ← shift 24 (by decide), ← shift 16 (by decide), ← shift 8 (by decide)]
  simp only [tcpCommandBuildHeader, toUInt8_and_mask]
  rfl

theorem tcpCommandHeaderParser_eq {buffer : Nat → UInt8} {header : TcpCommandHeader} (cmd : buffer 0 = header.cmd)
    (retCode : buffer 1 = header.retCode) (len : [buffer 2, buffer 3, buffer 4, buffer 5] = bigEndian header.len) :
    tcpCommandHeaderParser buffer = header := by
  have parsed : (tcpCommandHeaderParser buffer).len = header.len := by
    rw [← UInt32.toNat_inj, tcpCommandHeaderParser, toNat_parsed, len, decode_bigEndian]
  calc tcpCommandHeaderParser buffer = ⟨buffer 0, buffer 1, (tcpCommandHeaderParser buffer).len⟩ := rfl
    _ = header := by rw [cmd, retCode, parsed]

theorem bigEndian_parsed (buffer : Nat → UInt8) :
    bigEndian (tcpCommandHeaderParser buffer).len = [buffer 2, buffer 3, buffer 4, buffer 5] := by
  rw [bigEndian, tcpCommandHeaderParser, toNat_parsed]
  exact ByteOrder.encode_decode true [buffer 2, buffer 3, buffer 4, buffer 5]

/-! ### Framing -/

/-- The stream begins with a whole command. -/
structure Framed (stream : List UInt8) (header : TcpCommandHeader) (payload rest : List UInt8) : Prop where
  bytes : stream = 0x47 :: 0x74 :: header.cmd :: header.retCode :: (bigEndian header.len ++ payload ++ rest)
  length : payload.length = header.len.toNat
  small : header.len.toNat < 2 ^ 31

def TcCommand.payload (command : TcCommand) : List UInt8 := command.data.getD []

theorem sysReadn_enough {n : Nat} {bytes rest : List UInt8} (split : connfd.stream = bytes ++ rest)
    (length : bytes.length = n) : ∃ left, sysReadn connfd n = ⟨n, bytes, left⟩ ∧ left.stream = rest := by
  have ways := sysReadn_cases connfd n
  generalize sysReadn connfd n = outcome at ways
  cases ways with
  | @enough stored left whole full =>
    obtain ⟨rfl, rfl⟩ := List.append_inj (whole.symm.trans split) (full.trans length.symm)
    exact ⟨left, rfl, rfl⟩
  | short few =>
    rw [split, List.length_append] at few
    omega

theorem sysReadn_empty {n : Nat} (positive : 0 < n) (empty : connfd.stream = []) : (sysReadn connfd n).ret < n := by
  have ways := sysReadn_cases connfd n
  generalize sysReadn connfd n = outcome at ways
  cases ways with
  | @enough stored left whole full =>
    rw [empty] at whole
    have none := congrArg List.length whole
    rw [List.length_nil, List.length_append] at none
    omega
  | short _ _ less => exact less

theorem toInt_of_small {len : UInt32} (small : len.toNat < 2 ^ 31) : len.toInt32.toInt = len.toNat := by
  rw [Int32.toInt, UInt32.toBitVec_toInt32, BitVec.toInt_eq_toNat_cond, UInt32.toNat_toBitVec]
  exact if_pos (by omega)

theorem toInt_of_large {len : UInt32} (large : 2 ^ 31 ≤ len.toNat) : len.toInt32.toInt ≤ 0 := by
  have bound := len.toNat_lt
  rw [Int32.toInt, UInt32.toBitVec_toInt32, BitVec.toInt_eq_toNat_cond, UInt32.toNat_toBitVec, if_neg (by omega)]
  omega

/-- A count that falls short of the length is not taken for it. -/
theorem ofInt_ne {len : UInt32} {ret : Int} (small : len.toNat < 2 ^ 31) (atLeast : -1 ≤ ret) (less : ret < len.toNat) :
    UInt32.ofInt ret ≠ len := by
  intro same
  have size := congrArg UInt32.toNat same
  rw [UInt32.ofInt, UInt32.toNat_ofNat'] at size
  omega

theorem ofInt_toNat (len : UInt32) : UInt32.ofInt len.toNat = len := by
  have bound := len.toNat_lt
  rw [← UInt32.toNat_inj, UInt32.ofInt, UInt32.toNat_ofNat']
  omega

/-- The payload is complete exactly if the length is no negative `int` and that many bytes arrive. -/
theorem payload_ok {len : UInt32} (complete : UInt32.ofInt (sysReadn connfd len.toInt32.toInt).ret = len) :
    len.toNat < 2 ^ 31 ∧ ∃ bytes left, sysReadn connfd len.toInt32.toInt = ⟨len.toNat, bytes, left⟩ ∧
      bytes.length = len.toNat ∧ connfd.stream = bytes ++ left.stream := by
  rcases Nat.lt_or_ge len.toNat (2 ^ 31) with small | large
  · rw [toInt_of_small small] at complete ⊢
    have ways := sysReadn_cases connfd len.toNat
    generalize sysReadn connfd len.toNat = outcome at ways complete
    cases ways with
    | @enough bytes left split length => exact ⟨small, bytes, left, rfl, length, split⟩
    | short few atLeast less => exact absurd complete (ofInt_ne small atLeast less)
  · rw [sysReadn_of_nonpos (toInt_of_large large)] at complete
    rw [← complete] at large
    exact absurd large (by decide : ¬ 2 ^ 31 ≤ (UInt32.ofInt 0).toNat)

theorem payload_eq {header : TcpCommandHeader} {bytes : List UInt8} (length : bytes.length = header.len.toNat) :
    (TcCommand.mk header (if 0 < header.len then some bytes else none)).payload = bytes := by
  unfold TcCommand.payload
  dsimp only
  split_ifs with positive
  · rfl
  · have zero : header.len.toNat = 0 := by
      rw [UInt32.lt_iff_toNat_lt, UInt32.toNat_zero] at positive
      omega
    exact (List.length_eq_zero_iff.mp (length.trans zero)).symm

theorem readCommand_of_framed {header : TcpCommandHeader} {payload rest : List UInt8} (stale : Nat → UInt8)
    (framed : Framed connfd.stream header payload rest) :
    ∃ command left, tcpCommandReadCommand stale connfd = some (command, left) ∧ command.header = header ∧
      command.payload = payload ∧ left.stream = rest := by
  obtain ⟨bytes, length, small⟩ := framed
  obtain ⟨b₃, b₂, b₁, b₀, four⟩ : ∃ b₃ b₂ b₁ b₀, bigEndian header.len = [b₃, b₂, b₁, b₀] := ⟨_, _, _, _, rfl⟩
  rw [four, List.append_assoc] at bytes
  have two : [(0x47 : UInt8), 0x74].length = 2 := rfl
  have six : [header.cmd, header.retCode, b₃, b₂, b₁, b₀].length = 6 := rfl
  obtain ⟨afterMagic, magic, tail⟩ := sysReadn_enough bytes two
  obtain ⟨afterHeader, fields, tail⟩ := sysReadn_enough tail six
  obtain ⟨left, read, tail⟩ := sysReadn_enough tail length
  have begins : sysReadn connfd 2 = ⟨2, [0x47, 0x74], afterMagic⟩ := magic
  have goesOn : sysReadn afterMagic 6 = ⟨6, [header.cmd, header.retCode, b₃, b₂, b₁, b₀], afterHeader⟩ := fields
  have parsed : tcpCommandHeaderParser (fun i =>
      store (store stale 0 [0x47, 0x74]) 2 [header.cmd, header.retCode, b₃, b₂, b₁, b₀] (2 + i)) = header :=
    tcpCommandHeaderParser_eq rfl rfl four.symm
  refine ⟨⟨header, if 0 < header.len then some payload else none⟩, left, ?_, rfl, payload_eq length, tail⟩
  have opening : ¬ ((2 : Int) ≤ 0 ∨ store stale 0 [0x47, 0x74] 0 ≠ 0x47 ∨ store stale 0 [0x47, 0x74] 1 ≠ 0x74) := by
    simp [store]
  unfold tcpCommandReadCommand
  simp only [begins, opening, goesOn, parsed, toInt_of_small small, read, ofInt_toNat, if_false, ne_eq, not_true_eq_false]

/-- Where the function accepts the first bytes, they were all there: a stream that has ended gives no header. -/
theorem opening_read {stale : Nat → UInt8}
    (opening : ¬ ((sysReadn connfd 2).ret ≤ 0 ∨ store stale 0 (sysReadn connfd 2).stored 0 ≠ 0x47 ∨
      store stale 0 (sysReadn connfd 2).stored 1 ≠ 0x74))
    (six : (sysReadn (sysReadn connfd 2).connfd 6).ret = 6) :
    connfd.stream = 0x47 :: 0x74 :: (sysReadn connfd 2).connfd.stream := by
  have ways : SysReads connfd.stream connfd.ending 2 (sysReadn connfd 2) := sysReadn_cases connfd 2
  generalize sysReadn connfd 2 = magic at ways opening six
  cases ways with
  | enough split length =>
    obtain ⟨a, b, rfl⟩ := List.length_eq_two.mp length
    have marks : a = 0x47 ∧ b = 0x74 := by simpa [store] using opening
    rw [split, marks.1, marks.2]
    rfl
  | short few atLeast less empty =>
    have fails := sysReadn_empty (n := 6) (by decide) empty
    exact absurd six (ne_of_lt fails)

theorem fields_read (six : (sysReadn connfd 6).ret = 6) :
    (sysReadn connfd 6).stored.length = 6 ∧ connfd.stream = (sysReadn connfd 6).stored ++ (sysReadn connfd 6).connfd.stream := by
  have ways : SysReads connfd.stream connfd.ending 6 (sysReadn connfd 6) := sysReadn_cases connfd 6
  generalize sysReadn connfd 6 = fields at ways six
  cases ways with
  | enough split length => exact ⟨length, split⟩
  | short few atLeast less => exact absurd six (ne_of_lt less)

theorem fields_parsed (buffer : Nat → UInt8) {fields : List UInt8} (six : fields.length = 6) :
    fields = (tcpCommandHeaderParser fun i => store buffer 2 fields (2 + i)).cmd ::
      (tcpCommandHeaderParser fun i => store buffer 2 fields (2 + i)).retCode ::
      bigEndian (tcpCommandHeaderParser fun i => store buffer 2 fields (2 + i)).len := by
  rw [bigEndian_parsed]
  match fields, six with
  | [_, _, _, _, _, _], _ => rfl

theorem framed_of_readCommand {stale : Nat → UInt8} {command : TcCommand} {left : Source UInt8}
    (read : tcpCommandReadCommand stale connfd = some (command, left)) :
    Framed connfd.stream command.header command.payload left.stream := by
  unfold tcpCommandReadCommand at read
  dsimp only at read
  split at read
  · cases read
  rename_i opening
  split at read
  · cases read
  rename_i six
  split at read
  · cases read
  rename_i complete
  have begins := opening_read opening (not_not.mp six)
  obtain ⟨length, fields⟩ := fields_read (not_not.mp six)
  obtain ⟨small, bytes, rest, arrived, whole, split⟩ := payload_ok (not_not.mp complete)
  have parsed := fields_parsed (store stale 0 (sysReadn connfd 2).stored) length
  generalize (tcpCommandHeaderParser fun i => _) = header at *
  rw [arrived] at read
  cases read
  refine ⟨?_, ?_, small⟩
  · show _ = 0x47 :: 0x74 :: header.cmd :: header.retCode :: (bigEndian header.len ++ _ ++ rest.stream)
    rw [payload_eq whole, begins, fields, parsed, split, List.cons_append, List.cons_append, List.append_assoc]
  · rw [payload_eq whole]
    exact whole

/-- However the stream is cut up and wherever it ends, a command is read exactly if a whole one was delivered;
it is then the one in the stream, and nothing behind it is consumed. What the builder writes is read back. -/
theorem tcpCommand_framing (stale : Nat → UInt8) (connfd : Source UInt8) :
    ((∃ command left, tcpCommandReadCommand stale connfd = some (command, left)) ↔
      ∃ header payload rest, Framed connfd.stream header payload rest) ∧
    (∀ command left, tcpCommandReadCommand stale connfd = some (command, left) →
      Framed connfd.stream command.header command.payload left.stream ∧
      connfd.stream.length = 8 + command.header.len.toNat + left.stream.length) ∧
    ∀ command : TcCommand,
      tcpCommandHeaderParser (fun i => (tcpCommandBuildHeader command).getD (2 + i) 0) = command.header := by
  refine ⟨⟨?_, ?_⟩, ?_, ?_⟩
  · rintro ⟨command, left, read⟩
    exact ⟨_, _, _, framed_of_readCommand read⟩
  · rintro ⟨header, payload, rest, framed⟩
    obtain ⟨command, left, read, -⟩ := readCommand_of_framed stale framed
    exact ⟨command, left, read⟩
  · intro command left read
    have framed := framed_of_readCommand read
    refine ⟨framed, ?_⟩
    rw [framed.bytes]
    simp only [List.length_cons, List.length_append, length_bigEndian, framed.length]
    omega
  · intro command
    rw [tcpCommandBuildHeader_eq]
    exact tcpCommandHeaderParser_eq rfl rfl rfl

end HesaiLidar
