import ContextHub.Trace
import Mathlib.Algebra.GroupWithZero.Nat
/-!
# What a stream of frames says

A frame begins with four numbers of fixed width, the last of which is the length of what follows. So
it can be read off the front of whatever bytes begin with it (`TraceEntry.read?`), and a stream of
frames can be read to its end (`TraceEntry.readAll?`), whatever the details hold. Reading succeeds
on the streams of entries that fit their widths and on no other bytes, and gives these entries back:
a stream has one meaning (`stream_determines_entries`).
-/

namespace ContextHub

namespace Bytes

theorem decode_lt (bs : List UInt8) : decode bs < 256 ^ bs.length := by
  induction bs with
  | nil => exact Nat.one_pos
  | cons b bs ih =>
    have hb := b.toNat_lt
    rw [decode, List.length_cons, pow_succ]
    omega

theorem encode_decode {count : Nat} {bs : List UInt8} (h : bs.length = count) :
    encode count (decode bs) = bs := by
  induction count generalizing bs with
  | zero => rw [List.length_eq_zero_iff.1 h]; rfl
  | succ count ih =>
    cases bs with
    | nil => cases h
    | cons b bs =>
      have hb := b.toNat_lt
      have hlow : UInt8.ofNat (b.toNat + 256 * decode bs) = b := by
        apply UInt8.toNat_inj.1
        rw [UInt8.toNat_ofNat']
        omega
      have hhigh : (b.toNat + 256 * decode bs) / 256 = decode bs := by omega
      rw [decode, encode, hlow, hhigh, ih (Nat.succ.inj h)]

/-- Reads a number of `count` bytes off the front; nothing if there are fewer. -/
def read? (count : Nat) (bs : List UInt8) : Option (Nat × List UInt8) :=
  if count ≤ bs.length then some (decode (bs.take count), bs.drop count) else none

theorem read?_eq_some {count n : Nat} {bs rest : List UInt8} :
    read? count bs = some (n, rest) ↔ n < 256 ^ count ∧ bs = encode count n ++ rest := by
  unfold read?
  constructor
  · intro h
    split at h
    · rename_i hle
      obtain ⟨rfl, rfl⟩ := Prod.mk.inj (Option.some.inj h)
      have hl : (bs.take count).length = count := List.length_take_of_le hle
      refine ⟨?_, ?_⟩
      · have hlt := decode_lt (bs.take count)
        rwa [hl] at hlt
      · rw [encode_decode hl, List.take_append_drop]
    · cases h
  · rintro ⟨hn, rfl⟩
    have hl := length_encode count n
    rw [if_pos (by rw [List.length_append, hl]; omega), List.take_left' hl, List.drop_left' hl,
      decode_encode hn]

end Bytes

namespace TraceEntry

/-- The numbers of the entry are of the widths that its frame has for them. -/
structure Fits (e : TraceEntry) : Prop where
  now : e.now < 256 ^ 8
  source : e.source.val < 256 ^ 2
  tag : e.tag < 256 ^ 2
  detail : e.detail.length < 256 ^ 8

instance (e : TraceEntry) : Decidable e.Fits :=
  decidable_of_iff (e.now < 256 ^ 8 ∧ e.source.val < 256 ^ 2 ∧ e.tag < 256 ^ 2 ∧
      e.detail.length < 256 ^ 8)
    ⟨fun ⟨hnow, hsource, htag, hdetail⟩ => ⟨hnow, hsource, htag, hdetail⟩,
      fun h => ⟨h.now, h.source, h.tag, h.detail⟩⟩

/-! ## One frame -/

/-- Reads an entry off the front; nothing if the bytes end before its frame does. -/
def read? (bs : List UInt8) : Option (TraceEntry × List UInt8) := do
  let (now, bs) ← Bytes.read? 8 bs
  let (source, bs) ← Bytes.read? 2 bs
  let (tag, bs) ← Bytes.read? 2 bs
  let (length, bs) ← Bytes.read? 8 bs
  if length ≤ bs.length then some (⟨now, ⟨source⟩, tag, bs.take length⟩, bs.drop length) else none

theorem frame_append (e : TraceEntry) (rest : List UInt8) :
    e.frame ++ rest = Bytes.encode 8 e.now ++ (Bytes.encode 2 e.source.val ++
      (Bytes.encode 2 e.tag ++ (Bytes.encode 8 e.detail.length ++ (e.detail ++ rest)))) := by
  simp only [frame, List.append_assoc]

/-- Exactly the frames of entries that fit can be read, whatever follows them. -/
theorem read?_eq_some {bs rest : List UInt8} {e : TraceEntry} :
    read? bs = some (e, rest) ↔ e.Fits ∧ bs = e.frame ++ rest := by
  simp only [read?, Option.bind_eq_bind, Option.bind_eq_some_iff, Prod.exists, Bytes.read?_eq_some]
  constructor
  · rintro ⟨now, _, ⟨hnow, rfl⟩, source, _, ⟨hsource, rfl⟩, tag, _, ⟨htag, rfl⟩, length, bs,
      ⟨hlength, rfl⟩, h⟩
    split at h
    · rename_i hle
      obtain ⟨rfl, rfl⟩ := Prod.mk.inj (Option.some.inj h)
      have hl : (bs.take length).length = length := List.length_take_of_le hle
      refine ⟨⟨hnow, hsource, htag, hl.symm ▸ hlength⟩, ?_⟩
      rw [frame_append, List.take_append_drop]
      simp only [hl]
    · cases h
  · rintro ⟨hf, rfl⟩
    refine ⟨_, _, ⟨hf.now, frame_append e rest⟩, _, _, ⟨hf.source, rfl⟩, _, _, ⟨hf.tag, rfl⟩, _, _,
      ⟨hf.detail, rfl⟩, ?_⟩
    rw [if_pos (by rw [List.length_append]; omega), List.take_left, List.drop_left]

/-- A frame is never empty. -/
theorem length_frame_pos (e : TraceEntry) : 0 < e.frame.length := by
  simp only [frame, List.length_append, Bytes.length_encode]
  omega

theorem length_rest_lt {bs rest : List UInt8} {e : TraceEntry} (h : read? bs = some (e, rest)) :
    rest.length < bs.length := by
  have hpos := e.length_frame_pos
  rw [(read?_eq_some.1 h).2, List.length_append]
  omega

/-! ## A whole stream -/

/-- Reads entries until the bytes end; nothing if they end within a frame. -/
def readAll? (bs : List UInt8) : Option (List TraceEntry) :=
  if bs = [] then some []
  else
    match _h : read? bs with
    | none => none
    | some (e, rest) => (readAll? rest).map (e :: ·)
termination_by bs.length
decreasing_by exact length_rest_lt ‹_›

theorem readAll?_nil : readAll? [] = some [] := by
  rw [readAll?, if_pos rfl]

theorem readAll?_frame_append {e : TraceEntry} (he : e.Fits) (rest : List UInt8) :
    readAll? (e.frame ++ rest) = (readAll? rest).map (e :: ·) := by
  have hread : read? (e.frame ++ rest) = some (e, rest) := read?_eq_some.2 ⟨he, rfl⟩
  have hne : e.frame ++ rest ≠ [] := by
    intro h
    have := e.length_frame_pos
    rw [(List.append_eq_nil_iff.1 h).1] at this
    cases this
  rw [readAll?, if_neg hne]
  split
  · rename_i h
    rw [hread] at h
    cases h
  · rename_i h
    obtain ⟨rfl, rfl⟩ := Prod.mk.inj (Option.some.inj (hread.symm.trans h))
    rfl

/-- Streams of entries that fit are read as these entries. -/
theorem readAll?_flatMap {es : List TraceEntry} (hes : ∀ e ∈ es, e.Fits) :
    readAll? (es.flatMap frame) = some es := by
  induction es with
  | nil => exact readAll?_nil
  | cons e es ih =>
    rw [List.flatMap_cons, readAll?_frame_append (hes e List.mem_cons_self),
      ih fun e' he' => hes e' (List.mem_cons_of_mem _ he'), Option.map_some]

/-- No other bytes can be read. -/
theorem eq_flatMap_of_readAll? {bs : List UInt8} {es : List TraceEntry}
    (h : readAll? bs = some es) : (∀ e ∈ es, e.Fits) ∧ bs = es.flatMap frame := by
  induction bs using readAll?.induct generalizing es with
  | case1 =>
    rw [readAll?_nil] at h
    cases h
    exact ⟨fun e he => absurd he List.not_mem_nil, rfl⟩
  | case2 bs hne hnone =>
    rw [readAll?, if_neg hne] at h
    split at h
    · cases h
    · rename_i hsome
      rw [hnone] at hsome
      cases hsome
  | case3 bs hne e rest hread ih =>
    obtain ⟨he, rfl⟩ := read?_eq_some.1 hread
    rw [readAll?_frame_append he, Option.map_eq_some_iff] at h
    obtain ⟨es, hes, rfl⟩ := h
    obtain ⟨hfits, rfl⟩ := ih hes
    exact ⟨List.forall_mem_cons.2 ⟨he, hfits⟩, rfl⟩

end TraceEntry

/-! ## The recorder -/

namespace Trace

open TraceEntry (readAll? readAll?_flatMap eq_flatMap_of_readAll?)

theorem recordAll_stream (t : Trace) (es : List TraceEntry) :
    (t.recordAll es).stream.toList = t.stream.toList ++ es.flatMap TraceEntry.frame := by
  induction es generalizing t with
  | nil => exact (List.append_nil _).symm
  | cons e es ih =>
    have hrecord : (t.record e).stream.toList = t.stream.toList ++ e.frame :=
      Array.toList_appendList
    rw [recordAll, List.foldl_cons, ← recordAll, ih, hrecord, List.append_assoc,
      List.flatMap_cons]

/-- The bytes that go into a digest determine what was recorded: they, and no others, are read back
as the entries, so that two traces have the same bytes only if they are the same. Different traces
that share a digest are therefore two different inputs on which BLAKE3 collides. -/
theorem stream_determines_entries (es es' : List TraceEntry) (hes : ∀ e ∈ es, e.Fits)
    (hes' : ∀ e ∈ es', e.Fits) :
    (∀ bs, readAll? bs = some es ↔ bs = (recordAll {} es).stream.toList) ∧
      ((recordAll {} es).stream = (recordAll {} es').stream ↔ es = es') ∧
      (es ≠ es' → (recordAll {} es).digest = (recordAll {} es').digest →
        (recordAll {} es).stream ≠ (recordAll {} es').stream ∧
          Blake3.hexHash (recordAll {} es).stream = Blake3.hexHash (recordAll {} es').stream) := by
  have hread : ∀ es : List TraceEntry, (∀ e ∈ es, e.Fits) →
      ∀ bs, readAll? bs = some es ↔ bs = (recordAll {} es).stream.toList := by
    intro es hes bs
    rw [recordAll_stream, List.nil_append]
    refine ⟨fun h => (eq_flatMap_of_readAll? h).2, ?_⟩
    rintro rfl
    exact readAll?_flatMap hes
  have hiff : (recordAll {} es).stream = (recordAll {} es').stream ↔ es = es' := by
    refine ⟨fun h => ?_, fun h => by rw [h]⟩
    have hleft := (hread es hes _).2 rfl
    have hright := (hread es' hes' _).2 rfl
    rw [h] at hleft
    exact Option.some.inj (hleft.symm.trans hright)
  exact ⟨hread es hes, hiff, fun hne hdigest => ⟨mt hiff.1 hne, hdigest⟩⟩

/-- Two ways to cut the same three bytes into details give different streams, and so do a detail
that is itself a frame and that frame recorded on its own. -/
theorem boundaries_of_details_matter :
    (recordAll {} [⟨0, ⟨1⟩, 1, [97, 98]⟩, ⟨0, ⟨1⟩, 1, [99]⟩]).stream ≠
        (recordAll {} [⟨0, ⟨1⟩, 1, [97]⟩, ⟨0, ⟨1⟩, 1, [98, 99]⟩]).stream ∧
      (recordAll {} [⟨0, ⟨1⟩, 1, TraceEntry.frame ⟨0, ⟨1⟩, 1, []⟩⟩]).stream ≠
        (recordAll {} [⟨0, ⟨1⟩, 1, []⟩, ⟨0, ⟨1⟩, 1, []⟩]).stream :=
  ⟨mt (stream_determines_entries _ _ (by decide) (by decide)).2.1.1 (by decide),
    mt (stream_determines_entries _ _ (by decide) (by decide)).2.1.1 (by decide)⟩

end Trace

end ContextHub
