import Mathlib.Algebra.Order.Field.Basic
import Mathlib.Algebra.Order.Field.Rat
import Mathlib.Data.List.Infix
import Mathlib.Tactic.Linarith
import Mathlib.Tactic.Positivity

namespace RtuMaster.FirmwareUpload
set_option autoImplicit true

/-- The firmware file opened `"rb"`: its bytes and the position of the next read. -/
structure BinaryFile where
  data : List UInt8
  pos : Nat

/-- `f.read(amt)`; `None` or a negative size reads to the end. -/
def BinaryFile.read (f : BinaryFile) (amt : Option Int) : List UInt8 × BinaryFile :=
  let rest := f.data.drop f.pos
  let chunk := match amt with
    | some size => if size < 0 then rest else rest.take size.toNat
    | none => rest
  (chunk, { f with pos := f.pos + chunk.length })

def BinaryFile.readAll : BinaryFile → List (Option Int) → List UInt8 × BinaryFile
  | f, [] => ([], f)
  | f, amt :: amts =>
    let (chunk, f') := f.read amt
    let (chunks, f'') := f'.readAll amts
    (chunk ++ chunks, f'')

theorem BinaryFile.read_prefix (f : BinaryFile) (amt : Option Int) :
    (f.read amt).1 <+: f.data.drop f.pos ∧
      (f.read amt).2 = ⟨f.data, f.pos + (f.read amt).1.length⟩ := by
  refine ⟨?_, rfl⟩
  simp only [read]
  split
  · split
    · exact List.prefix_refl _
    · exact List.take_prefix _ _
  · exact List.prefix_refl _

theorem prefix_drop_append {l c₁ c₂ : List α} (h₁ : c₁ <+: l.drop p)
    (h₂ : c₂ <+: l.drop (p + c₁.length)) : c₁ ++ c₂ <+: l.drop p := by
  obtain ⟨t, ht⟩ := h₁
  have : l.drop (p + c₁.length) = t := by
    rw [← List.drop_drop, ← ht, List.drop_left]
  rw [← ht]
  exact List.prefix_append_right_inj _ |>.mpr (this ▸ h₂)

theorem BinaryFile.readAll_prefix (f : BinaryFile) (amts : List (Option Int)) :
    (f.readAll amts).1 <+: f.data.drop f.pos ∧
      (f.readAll amts).2 = ⟨f.data, f.pos + (f.readAll amts).1.length⟩ := by
  induction amts generalizing f with
  | nil => exact ⟨List.nil_prefix, by simp [readAll]⟩
  | cons amt amts ih =>
    obtain ⟨hc, hf⟩ := f.read_prefix amt
    obtain ⟨hcs, hf'⟩ := ih (f.read amt).2
    simp only [readAll]
    rw [hf] at hcs hf' ⊢
    refine ⟨prefix_drop_append hc hcs, ?_⟩
    rw [hf']
    simp [Nat.add_assoc]

structure ProgressLine where
  sent : Nat
  total : Nat
  pct : ℚ
  rate : ℚ

structure ProgressLine.Sound (size : Nat) (l : ProgressLine) : Prop where
  total : l.total = size
  sent_le : l.sent ≤ size
  pct_nonneg : 0 ≤ l.pct
  pct_le : l.pct ≤ 100
  rate_nonneg : 0 ≤ l.rate

/-- `ProgressFile`, with `time.time()` at construction and at the last progress line. -/
structure ProgressFile where
  f : BinaryFile
  total : Nat
  sent : Nat
  t0 : ℚ
  last : ℚ

def ProgressFile.init (f : BinaryFile) (total : Nat) (now : ℚ) : ProgressFile :=
  ⟨f, total, 0, now, now⟩

/-- `ProgressFile.read(amt)`, where `now` is what `time.time()` returns if it is called. -/
def ProgressFile.read (pf : ProgressFile) (amt : Option Int) (now : ℚ) :
    List UInt8 × ProgressFile × Option ProgressLine :=
  let chunk := (pf.f.read amt).1
  let pf := { pf with f := (pf.f.read amt).2 }
  if chunk = [] then (chunk, pf, none)
  else
    let pf := { pf with sent := pf.sent + chunk.length }
    if now - pf.last ≥ 1 / 2 then
      let pct : ℚ := if pf.total ≠ 0 then pf.sent / pf.total * 100 else 0
      let rate : ℚ := pf.sent / max (1 / 1000000) (now - pf.t0) / (1024 * 1024)
      (chunk, { pf with last := now }, some ⟨pf.sent, pf.total, pct, rate⟩)
    else (chunk, pf, none)

/-- The bytes handed on, the wrapper after, and each progress line with its clock reading. -/
structure Upload where
  chunks : List UInt8
  wrapper : ProgressFile
  lines : List ProgressLine
  printedAt : List ℚ

def ProgressFile.readAll : ProgressFile → List (Option Int × ℚ) → Upload
  | pf, [] => ⟨[], pf, [], []⟩
  | pf, (amt, now) :: reads =>
    let r := pf.read amt now
    let u := r.2.1.readAll reads
    ⟨r.1 ++ u.chunks, u.wrapper, r.2.2.toList ++ u.lines,
      (r.2.2.map fun _ => now).toList ++ u.printedAt⟩

/-- The upload in `main`: `ProgressFile(base, file_size)` built at `t0`, then its reads. -/
def upload (data : List UInt8) (t0 : ℚ) (reads : List (Option Int × ℚ)) : Upload :=
  (ProgressFile.init ⟨data, 0⟩ data.length t0).readAll reads

namespace ProgressFile

@[simp] theorem read_chunk (pf : ProgressFile) : (pf.read amt now).1 = (pf.f.read amt).1 := by
  simp only [read]; split_ifs <;> rfl

@[simp] theorem read_f (pf : ProgressFile) : (pf.read amt now).2.1.f = (pf.f.read amt).2 := by
  simp only [read]; split_ifs <;> rfl

@[simp] theorem read_total (pf : ProgressFile) : (pf.read amt now).2.1.total = pf.total := by
  simp only [read]; split_ifs <;> rfl

@[simp] theorem read_sent (pf : ProgressFile) :
    (pf.read amt now).2.1.sent = pf.sent + (pf.f.read amt).1.length := by
  simp only [read]; split_ifs with h <;> simp [h]

theorem read_line (pf : ProgressFile) (h : (pf.read amt now).2.2 = some l) :
    (pf.f.read amt).1 ≠ [] ∧ l.sent = pf.sent + (pf.f.read amt).1.length ∧
      l.total = pf.total ∧
      l.pct = (if pf.total ≠ 0 then (l.sent : ℚ) / pf.total * 100 else 0) ∧
      l.rate = l.sent / max (1 / 1000000) (now - pf.t0) / (1024 * 1024) := by
  simp only [read] at h
  split at h
  · cases h
  · split at h
    · cases h
      exact ⟨‹_›, rfl, rfl, rfl, rfl⟩
    · cases h

theorem readAll_file (pf : ProgressFile) (reads : List (Option Int × ℚ)) :
    (pf.readAll reads).chunks = (pf.f.readAll (reads.map Prod.fst)).1 ∧
      (pf.readAll reads).wrapper.f = (pf.f.readAll (reads.map Prod.fst)).2 := by
  induction reads generalizing pf with
  | nil => exact ⟨rfl, rfl⟩
  | cons r reads ih =>
    obtain ⟨hc, hf⟩ := ih (pf.read r.1 r.2).2.1
    simp only [readAll, List.map, BinaryFile.readAll, read_chunk] at hc hf ⊢
    rw [read_f] at hc hf
    exact ⟨by rw [hc], hf⟩

theorem readAll_append_single (pf : ProgressFile) (reads : List (Option Int × ℚ)) :
    pf.readAll (reads ++ [(amt, now)]) =
      ⟨(pf.readAll reads).chunks ++ ((pf.readAll reads).wrapper.read amt now).1,
        ((pf.readAll reads).wrapper.read amt now).2.1,
        (pf.readAll reads).lines ++ ((pf.readAll reads).wrapper.read amt now).2.2.toList,
        (pf.readAll reads).printedAt ++
          (((pf.readAll reads).wrapper.read amt now).2.2.map fun _ => now).toList⟩ := by
  induction reads generalizing pf with
  | nil => simp [readAll]
  | cons r reads ih => simp [readAll, ih]

/-- The uploader's wrapper after any reads: its count is the bytes read from its file. -/
structure Inv (data : List UInt8) (pf : ProgressFile) : Prop where
  wraps : pf.f.data = data
  total : pf.total = data.length
  sent : pf.sent = pf.f.pos
  pos_le : pf.f.pos ≤ data.length

theorem Inv.init (data : List UInt8) (t0 : ℚ) : Inv data (init ⟨data, 0⟩ data.length t0) :=
  ⟨rfl, rfl, rfl, Nat.zero_le _⟩

theorem Inv.read (h : Inv data pf) (amt : Option Int) (now : ℚ) :
    Inv data (pf.read amt now).2.1 := by
  obtain ⟨hc, hf⟩ := pf.f.read_prefix amt
  have hlen := hc.length_le
  rw [List.length_drop, h.wraps] at hlen
  refine ⟨?_, ?_, ?_, ?_⟩ <;>
    simp only [read_f, read_total, read_sent, hf, h.wraps, h.total, h.sent]
  have := h.pos_le; omega

theorem Inv.line (h : Inv data pf) (hl : (pf.read amt now).2.2 = some l) :
    l.Sound data.length ∧ pf.sent < l.sent := by
  obtain ⟨hc, hsent, htotal, hpct, hrate⟩ := pf.read_line hl
  have hsent_le := (h.read amt now).sent ▸ (h.read amt now).pos_le
  rw [read_sent, ← hsent] at hsent_le
  rw [h.total] at htotal hpct
  refine ⟨⟨htotal, hsent_le, ?_, ?_, ?_⟩, ?_⟩
  · rw [hpct]; split_ifs <;> positivity
  · rw [hpct]
    split_ifs with hz
    · have : (l.sent : ℚ) / data.length ≤ 1 :=
        div_le_one_of_le₀ (Nat.cast_le.mpr hsent_le) (Nat.cast_nonneg _)
      linarith
    · norm_num
  · rw [hrate]; positivity
  · have := List.length_pos.mpr hc; omega

theorem Inv.read_none (h : Inv data pf) (now : ℚ) :
    (pf.f.read none).1 = data.drop pf.sent ∧ (pf.read none now).2.1.sent = data.length ∧
      ∀ l ∈ (pf.read none now).2.2, l.pct = 100 := by
  have hchunk : (pf.f.read none).1 = data.drop pf.sent := by
    simp [BinaryFile.read, h.wraps, h.sent]
  have hsent : pf.sent + (pf.f.read none).1.length = data.length := by
    rw [hchunk, List.length_drop]
    have := h.sent ▸ h.pos_le
    omega
  refine ⟨hchunk, by rw [read_sent, hsent], fun l hl => ?_⟩
  obtain ⟨hc, hl_sent, -, hpct, -⟩ := pf.read_line hl
  have hne : data.length ≠ 0 := fun h0 =>
    hc (by rw [hchunk, List.length_eq_zero.mp h0, List.drop_nil])
  rw [hpct, h.total, if_pos hne, hl_sent, hsent, div_self (Nat.cast_ne_zero.mpr hne), one_mul]

theorem Inv.readAll (h : Inv data pf) (reads : List (Option Int × ℚ)) :
    Inv data (pf.readAll reads).wrapper ∧
      (∀ l ∈ (pf.readAll reads).lines, l.Sound data.length ∧ pf.sent < l.sent) ∧
      (pf.readAll reads).lines.Pairwise (fun l l' => l.sent < l'.sent) := by
  induction reads generalizing pf with
  | nil => exact ⟨h, by simp [ProgressFile.readAll], List.Pairwise.nil⟩
  | cons r reads ih =>
    obtain ⟨hinv, hlines, hsorted⟩ := ih (h.read r.1 r.2)
    have hle : pf.sent ≤ (pf.read r.1 r.2).2.1.sent := by simp
    simp only [ProgressFile.readAll]
    refine ⟨hinv, fun l hl => ?_,
      List.pairwise_append.mpr ⟨?_, hsorted, fun l hl l' hl' => ?_⟩⟩
    · rcases List.mem_append.mp hl with hl | hl
      · exact h.line (Option.mem_toList.mp hl)
      · exact ⟨(hlines l hl).1, lt_of_le_of_lt hle (hlines l hl).2⟩
    · cases (pf.read r.1 r.2).2.2 <;> simp
    · have hsent := (pf.read_line (Option.mem_toList.mp hl)).2.1
      have hnext := (hlines l' hl').2
      rw [read_sent] at hnext
      omega

end ProgressFile

theorem upload_prefix (data : List UInt8) (t0 : ℚ) (reads : List (Option Int × ℚ)) :
    ProgressFile.Inv data (upload data t0 reads).wrapper ∧
      (upload data t0 reads).chunks <+: data ∧
      (upload data t0 reads).wrapper.sent = (upload data t0 reads).chunks.length := by
  have hinv := ((ProgressFile.Inv.init data t0).readAll reads).1
  obtain ⟨hchunks, hf⟩ := (ProgressFile.init ⟨data, 0⟩ data.length t0).readAll_file reads
  obtain ⟨hpre, hpos⟩ := BinaryFile.readAll_prefix ⟨data, 0⟩ (reads.map Prod.fst)
  refine ⟨hinv, hchunks ▸ hpre, ?_⟩
  rw [upload, hinv.sent, hf]
  exact (congrArg BinaryFile.pos hpos).trans (by rw [hchunks]; exact Nat.zero_add _)

/-- The upload hands on the file's own bytes in order, with sound, increasing progress lines. -/
theorem progressFile_upload_faithful (data : List UInt8) (t0 : ℚ)
    (reads : List (Option Int × ℚ)) :
    (upload data t0 reads).chunks = (BinaryFile.readAll ⟨data, 0⟩ (reads.map Prod.fst)).1 ∧
      (upload data t0 reads).chunks <+: data ∧
      (upload data t0 reads).wrapper.sent = (upload data t0 reads).chunks.length ∧
      (∀ l ∈ (upload data t0 reads).lines, l.Sound data.length) ∧
      (upload data t0 reads).lines.Pairwise (fun l l' => l.sent < l'.sent) := by
  obtain ⟨-, hlines, hsorted⟩ := (ProgressFile.Inv.init data t0).readAll reads
  obtain ⟨-, hpre, hsent⟩ := upload_prefix data t0 reads
  exact ⟨(ProgressFile.readAll_file _ reads).1, hpre, hsent, fun l hl => (hlines l hl).1,
    hsorted⟩

/-- After any reads, a read without a size completes the upload. -/
theorem progressFile_read_to_end (data : List UInt8) (t0 now : ℚ)
    (reads : List (Option Int × ℚ)) :
    (upload data t0 (reads ++ [(none, now)])).chunks = data ∧
      (upload data t0 (reads ++ [(none, now)])).wrapper.sent = data.length ∧
      ∀ l ∈ ((upload data t0 reads).wrapper.read none now).2.2, l.pct = 100 := by
  obtain ⟨hinv, hpre, hsent⟩ := upload_prefix data t0 reads
  obtain ⟨hchunk, hlast, hpct⟩ := hinv.read_none now
  rw [upload, ProgressFile.readAll_append_single, ← upload]
  refine ⟨?_, hlast, hpct⟩
  rw [ProgressFile.read_chunk, hchunk, hsent]
  exact List.prefix_iff_eq_append.mp hpre

end RtuMaster.FirmwareUpload
