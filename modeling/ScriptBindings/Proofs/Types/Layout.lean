import Mathlib.Algebra.Order.Ring.Int
import ScriptBindings.Proofs.Types.WellFormed

/-!
# The natural layout of records

The size of a record follows from a greedy placement: every field begins at the first multiple of
its alignment at which there is room, and the whole is padded to a multiple of the record's own
alignment.  This file says that no other placement needs less.

* `alignUp_isLeast` — aligning gives the least multiple at or above an offset.
* `ScriptType.Lays` — fields placed in order, aligned and apart, wherever there is room.
* `ScriptType.least_of_place` — the greedy placement begins every field first of all.
* `ScriptType.Natural` — the layout of a record, with all that makes it natural.
* `ScriptType.exists_natural` — every record of well-formed types has it.

### What is load-bearing

Alignments are powers of two.  The greatest of some powers of two is a multiple of all of them, so
a record that begins at a multiple of its own alignment keeps every field aligned.
-/

namespace ScriptBindings

open Traversal

/-! ## The next multiple -/

/-- **Aligning an offset** gives the least multiple of the alignment that is not below it. -/
theorem alignUp_isLeast {offset alignment start : Int} (hpos : 0 < alignment)
    (h : alignUp offset alignment = .ok start) :
    IsLeast {multiple | alignment ∣ multiple ∧ offset ≤ multiple} start := by
  rw [ScriptType.alignUp_of_pos offset hpos, Int.fdiv_eq_ediv_of_nonneg _ hpos.le] at h
  obtain rfl := Except.ok.inj h
  have hdivide := Int.mul_ediv_add_emod (offset + alignment - 1) alignment
  have hrest := Int.emod_lt_of_pos (offset + alignment - 1) hpos
  rw [mul_comm alignment] at hdivide
  refine ⟨⟨dvd_mul_left _ _, by omega⟩, ?_⟩
  rintro _ ⟨⟨count, rfl⟩, hle⟩
  -- The next multiple after this one is out of reach of the division.
  have hnext : offset + alignment - 1 < (count + 1) * alignment := by
    rw [add_mul, one_mul, mul_comm count]
    omega
  have hcount : (offset + alignment - 1) / alignment ≤ count :=
    Int.lt_add_one_iff.1 (Int.ediv_lt_of_lt_mul hpos hnext)
  rw [mul_comm alignment]
  exact Int.mul_le_mul_of_nonneg_right hcount hpos.le

/-- The size of a scalar is a power of two. -/
theorem Scalar.exists_size_eq_pow (s : Scalar) : ∃ k : ℕ, s.size = 2 ^ k := by
  have hsizes : s.size = 2 ^ 0 ∨ s.size = 2 ^ 1 ∨ s.size = 2 ^ 2 ∨ s.size = 2 ^ 3 := by
    cases s <;> decide
  rcases hsizes with h | h | h | h <;> exact ⟨_, h⟩

namespace ScriptType

/-! ## Alignments are powers of two -/

/-- Of two powers of two, the smaller divides the greater. -/
theorem pow_dvd_of_le {a b : Int} (ha : ∃ k : ℕ, a = 2 ^ k) (hb : ∃ k : ℕ, b = 2 ^ k)
    (hle : a ≤ b) : a ∣ b := by
  obtain ⟨k, rfl⟩ := ha
  obtain ⟨l, rfl⟩ := hb
  exact pow_dvd_pow 2 ((pow_le_pow_iff_right₀ (by decide)).1 hle)

theorem Plain.alignment_eq_pow {type : ScriptType} (h : Plain type) {a : Int}
    (ha : type.alignment = .ok a) : ∃ k : ℕ, a = 2 ^ k := by
  cases h with
  | scalar s =>
      obtain rfl : s.size = a := by simpa [alignment] using ha
      exact s.exists_size_eq_pow
  | @vector s length numeric short =>
      obtain rfl : s.size * (if length = 3 then 4 else length) = a := by
        simpa [alignment, vectorSize] using ha
      obtain ⟨k, hk⟩ := s.exists_size_eq_pow
      -- Three elements are padded to four.
      rcases short with rfl | rfl | rfl
      · exact ⟨k + 1, by rw [hk, pow_succ]; rfl⟩
      · exact ⟨k + 2, by rw [hk, pow_add]; rfl⟩
      · exact ⟨k + 2, by rw [hk, pow_add]; rfl⟩
  | matrix small =>
      obtain rfl : 4 = a := by simpa [alignment] using ha
      exact ⟨2, rfl⟩
  | object kind =>
      obtain rfl : 4 = a := by simpa [alignment] using ha
      exact ⟨2, rfl⟩

theorem alignments_eq_mapM (fields : List Field) :
    alignments fields = fields.mapM fun f => f.type.alignment := by
  induction fields with
  | nil => rfl
  | cons f fields ih =>
      obtain ⟨name, type⟩ := f
      rw [alignments, ih, List.mapM_cons]

/-- **The alignment of a record** is that of one of its fields, and none of them is greater; that of
a record without fields is one. -/
theorem alignment_record_eq_ok {name : String} {fields : List Field} {alignment : Int}
    (h : (record name fields).alignment = .ok alignment) :
    (fields = [] ∧ alignment = 1 ∨ ∃ f ∈ fields, f.type.alignment = .ok alignment) ∧
      ∀ f ∈ fields, ∃ a, f.type.alignment = .ok a ∧ a ≤ alignment := by
  rw [ScriptType.alignment, alignments_eq_mapM] at h
  obtain ⟨as, has, hmax⟩ := bind_eq_ok_iff.1 h
  obtain rfl := Except.ok.inj hmax
  cases fields with
  | nil =>
      cases has
      exact ⟨.inl ⟨rfl, rfl⟩, by simp⟩
  | cons f fields =>
      have hfields := mapM_eq_ok_iff.1 has
      cases has' : as.max? with
      | none =>
          rw [List.max?_eq_none_iff] at has'
          subst has'
          cases hfields
      | some a =>
          obtain ⟨mem, hall⟩ := List.max?_eq_some_iff.1 has'
          refine ⟨.inr (exists_of_mem_mapM has mem), fun g hg => ?_⟩
          obtain ⟨b, hb, hgb⟩ := exists_of_forall₂_right hfields.flip hg
          exact ⟨b, hgb, hall b hb⟩

/-- **The alignment of a well-formed type** is a power of two. -/
theorem WellFormed.alignment_eq_pow {type : ScriptType} (h : WellFormed type) {a : Int}
    (ha : type.alignment = .ok a) : ∃ k : ℕ, a = 2 ^ k := by
  induction h generalizing a with
  | plain h => exact h.alignment_eq_pow ha
  | record name _ ih =>
      rcases (alignment_record_eq_ok ha).1 with ⟨-, rfl⟩ | ⟨f, hf, hfa⟩
      · exact ⟨0, rfl⟩
      · exact ih f hf hfa

/-- **The alignment of a record** is a multiple of that of every field. -/
theorem alignment_dvd_of_mem {name : String} {fields : List Field}
    (hfields : ∀ f ∈ fields, WellFormed f.type) {alignment : Int}
    (h : (record name fields).alignment = .ok alignment) {f : Field} (hf : f ∈ fields) :
    ∃ a, f.type.alignment = .ok a ∧ a ∣ alignment := by
  obtain ⟨a, ha, hle⟩ := (alignment_record_eq_ok h).2 f hf
  refine ⟨a, ha, pow_dvd_of_le ((hfields f hf).alignment_eq_pow ha) ?_ hle⟩
  exact (WellFormed.record name hfields).alignment_eq_pow h

/-! ## Placing fields -/

/-- **Fields placed in order** from an offset on, at the given starts and up to `stop`: each begins
at a multiple of its alignment, and not before the one in front of it ends. -/
inductive Lays : Int → List Field → List Int → Int → Prop
  | nil {offset stop : Int} (room : offset ≤ stop) : Lays offset [] [] stop
  | cons {offset start alignment size stop : Int} {f : Field} {fields : List Field}
      {starts : List Int} (halignment : f.type.alignment = .ok alignment)
      (hsize : f.type.paddedSize = .ok size) (aligned : alignment ∣ start)
      (apart : offset ≤ start) (rest : Lays (start + size) fields starts stop) :
      Lays offset (f :: fields) (start :: starts) stop

/-- What has room up to a place has room up to a later one. -/
theorem Lays.mono {offset stop stop' : Int} {fields : List Field} {starts : List Int}
    (h : Lays offset fields starts stop) (hle : stop ≤ stop') :
    Lays offset fields starts stop' := by
  induction h with
  | nil room => exact .nil (room.trans hle)
  | cons halignment hsize aligned apart _ ih =>
      exact .cons halignment hsize aligned apart (ih hle)

section Place

variable {fields : List Field} {offset offset' stop stop' : Int} {starts starts' : List Int}

/-- Placing a field and then the others behind it. -/
theorem place_cons_eq_ok_iff {f : Field} :
    place offset (f :: fields) = .ok (starts, stop) ↔
      ∃ alignment start size rest, f.type.alignment = .ok alignment ∧
        alignUp offset alignment = .ok start ∧ f.type.paddedSize = .ok size ∧
        place (start + size) fields = .ok (rest, stop) ∧ starts = start :: rest := by
  obtain ⟨name, type⟩ := f
  simp only [place, bind_eq_ok_iff, pure_eq_ok, Except.ok.injEq, Prod.exists, Prod.mk.injEq]
  constructor
  · rintro ⟨alignment, ha, start, hstart, size, hs, rest, _, hrest, rfl, rfl⟩
    exact ⟨alignment, start, size, rest, ha, hstart, hs, hrest, rfl⟩
  · rintro ⟨alignment, start, size, rest, ha, hstart, hs, hrest, rfl⟩
    exact ⟨alignment, ha, start, hstart, size, hs, rest, stop, hrest, rfl, rfl⟩

/-- **The fields of a record** are placed in order, aligned and apart. -/
theorem lays_of_place (hfields : ∀ f ∈ fields, WellFormed f.type)
    (h : place offset fields = .ok (starts, stop)) : Lays offset fields starts stop := by
  induction fields generalizing offset starts with
  | nil =>
      cases h
      exact .nil le_rfl
  | cons f fields ih =>
      obtain ⟨alignment, start, size, rest, ha, hstart, hs, hrest, rfl⟩ :=
        place_cons_eq_ok_iff.1 h
      obtain ⟨_, ha', hpos⟩ := (hfields f (by simp)).exists_alignment
      obtain rfl := Except.ok.inj (ha.symm.trans ha')
      obtain ⟨aligned, apart⟩ := (alignUp_isLeast hpos hstart).1
      exact .cons ha hs aligned apart (ih (fun g hg => hfields g (by simp [hg])) hrest)

/-- **No placement begins or ends a field sooner**, even if it begins itself at a later offset. -/
theorem least_of_place (hfields : ∀ f ∈ fields, WellFormed f.type)
    (h : place offset fields = .ok (starts, stop)) (h' : Lays offset' fields starts' stop')
    (hle : offset ≤ offset') : List.Forall₂ (· ≤ ·) starts starts' ∧ stop ≤ stop' := by
  induction h' generalizing offset starts with
  | nil room =>
      cases h
      exact ⟨.nil, hle.trans room⟩
  | @cons _ start' _ _ _ f _ _ halignment hsize aligned apart _ ih =>
      obtain ⟨alignment, start, size, rest, ha, hstart, hs, hrest, rfl⟩ :=
        place_cons_eq_ok_iff.1 h
      obtain ⟨_, ha', hpos⟩ := (hfields f (by simp)).exists_alignment
      obtain rfl := Except.ok.inj (ha.symm.trans ha')
      obtain rfl := Except.ok.inj (ha.symm.trans halignment)
      obtain rfl := Except.ok.inj (hs.symm.trans hsize)
      -- The other start is a multiple with room before it, so it is not before the least of them.
      have hfirst : start ≤ start' :=
        (alignUp_isLeast hpos hstart).2 ⟨aligned, hle.trans apart⟩
      obtain ⟨hstarts, hstop⟩ :=
        ih (fun g hg => hfields g (by simp [hg])) hrest (Int.add_le_add_right hfirst _)
      exact ⟨.cons hfirst hstarts, hstop⟩

/-- The first field begins where the record does. -/
theorem head?_place (hfields : ∀ f ∈ fields, WellFormed f.type)
    (h : place 0 fields = .ok (starts, stop)) : ∀ start ∈ starts.head?, start = 0 := by
  cases fields with
  | nil =>
      cases h
      simp
  | cons f fields =>
      obtain ⟨alignment, start, size, rest, ha, hstart, -, -, rfl⟩ := place_cons_eq_ok_iff.1 h
      obtain ⟨_, ha', hpos⟩ := (hfields f (by simp)).exists_alignment
      obtain rfl := Except.ok.inj (ha.symm.trans ha')
      have hleast := alignUp_isLeast hpos hstart
      have hzero : start ≤ 0 := hleast.2 ⟨Int.dvd_zero _, le_rfl⟩
      simpa using le_antisymm hzero hleast.1.2

end Place

/-! ## Records -/

/-- **The natural layout of a record**: its fields begin at `starts` and have ended at `stop`, and
with the padding behind them they take `size` bytes. -/
structure Natural (fields : List Field) (alignment : Int) (starts : List Int) (stop size : Int) :
    Prop where
  powerOfTwo : ∃ k : ℕ, alignment = 2 ^ k
  /-- A record that begins at a multiple of its alignment keeps its fields aligned. -/
  covers : ∀ f ∈ fields, ∃ a, f.type.alignment = .ok a ∧ a ∣ alignment
  begins : ∀ start ∈ starts.head?, start = 0
  /-- The fields are placed in order, aligned and apart. -/
  lays : Lays 0 fields starts stop
  room : stop ≤ size
  padded : alignment ∣ size
  /-- Of all layouts from the start of the record on, padded to its alignment, this one takes the
  least room. -/
  least : IsLeast {total | (∃ starts', Lays 0 fields starts' total) ∧ alignment ∣ total} size

/-- **Every record of well-formed types has a natural layout**: the one that its alignment, the
placement of its fields and its size make. -/
theorem exists_natural (name : String) {fields : List Field}
    (hfields : ∀ f ∈ fields, WellFormed f.type) :
    ∃ alignment starts stop size, (record name fields).alignment = .ok alignment ∧
      place 0 fields = .ok (starts, stop) ∧ (record name fields).paddedSize = .ok size ∧
        Natural fields alignment starts stop size := by
  have hrecord : WellFormed (record name fields) := .record name hfields
  obtain ⟨alignment, halignment, hpos⟩ := hrecord.exists_alignment
  obtain ⟨⟨starts, stop⟩, hplace⟩ := exists_place
    (fun f hf => (hfields f hf).exists_alignment) (fun f hf => (hfields f hf).exists_paddedSize) 0
  obtain ⟨size, hsize⟩ := hrecord.exists_paddedSize
  have hup : alignUp stop alignment = .ok size := by
    rwa [paddedSize, hplace, ok_bind, halignment] at hsize
  obtain ⟨⟨padded, room⟩, hleast⟩ := alignUp_isLeast hpos hup
  have hlays : Lays 0 fields starts stop := lays_of_place hfields hplace
  refine ⟨alignment, starts, stop, size, halignment, hplace, hsize, {
    powerOfTwo := hrecord.alignment_eq_pow halignment
    covers := fun f hf => alignment_dvd_of_mem hfields halignment hf
    begins := head?_place hfields hplace
    lays := hlays
    room := room
    padded := padded
    least := ⟨⟨⟨starts, hlays.mono room⟩, padded⟩, ?_⟩ }⟩
  rintro total ⟨⟨starts', hother⟩, hdvd⟩
  have hstop : stop ≤ total := (least_of_place hfields hplace hother le_rfl).2
  exact hleast ⟨hdvd, hstop⟩

/-- A record with a vector of three, another record and a tail that does not fill it. -/
def nestedFields : List Field :=
  [⟨"flag", .scalar (.known .char)⟩, ⟨"normal", .vector (.known .float) 3⟩,
    ⟨"inner", .record "inner" [⟨"gain", .scalar (.known .double)⟩, ⟨"turn", .matrix 3⟩,
      ⟨"none", .record "none" []⟩, ⟨"script", .object (.known .script)⟩]⟩,
    ⟨"tail", .scalar (.known .short)⟩]

theorem exists_natural_nested :
    (record "outer" nestedFields).alignment = .ok 16 ∧
      place 0 nestedFields = .ok ([0, 16, 32, 80], 82) ∧
      (record "outer" nestedFields).paddedSize = .ok 96 ∧
      Natural nestedFields 16 [0, 16, 32, 80] 82 96 := by
  have hfields : ∀ f ∈ nestedFields, WellFormed f.type := by
    have hleaf (name : String) {type : ScriptType} (h : ofName? name = some type) :
        WellFormed type := .plain (plain_of_ofName? h)
    simp only [nestedFields, List.forall_mem_cons, List.not_mem_nil, false_imp_iff, implies_true,
      and_true]
    refine ⟨hleaf "char" rfl, hleaf "float3" rfl, .record _ ?_,
      hleaf "int16_t" rfl⟩
    simp only [List.forall_mem_cons, List.not_mem_nil, false_imp_iff, implies_true, and_true]
    exact ⟨hleaf "double" rfl, hleaf "rs_matrix3x3" rfl,
      .record _ (by simp), hleaf "rs_script" rfl⟩
  have halignment : (record "outer" nestedFields).alignment = .ok 16 := rfl
  have hplace : place 0 nestedFields = .ok ([0, 16, 32, 80], 82) := rfl
  have hsize : (record "outer" nestedFields).paddedSize = .ok 96 := rfl
  obtain ⟨alignment, starts, stop, size, ha, hp, hs, hnatural⟩ := exists_natural "outer" hfields
  obtain rfl := Except.ok.inj (halignment.symm.trans ha)
  obtain ⟨rfl, rfl⟩ := Prod.mk.inj (Except.ok.inj (hplace.symm.trans hp))
  obtain rfl := Except.ok.inj (hsize.symm.trans hs)
  exact ⟨halignment, hplace, hsize, hnatural⟩

end ScriptType

end ScriptBindings
