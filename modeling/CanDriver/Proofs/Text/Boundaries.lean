import CanDriver.Interface.Basic
import Mathlib.Order.Bounds.Defs

namespace CanDriver

/-!
# Cutting a text at a boundary of its characters

* `boundaryFrom?_isGreatest` — the search for a boundary finds the last one that is not behind a byte,
  which is never four bytes before it;
* `Cuts room text kept` — a text is the longest one of whole characters, at the start of another one,
  that has room in so many bytes;
* `truncatedName_cuts` — such is the name that is kept of a name;
* `requestName_of_fits` — a name that fits stands in a request with all its bytes.
-/

open String

/-! ### Boundaries -/

section Boundaries

variable {text : String} {n : Nat}

/-- **`boundaryFrom? text n` finds the last boundary of `text` at or before byte `n`.** Byte 0 is a
    boundary, so there always is one. -/
theorem boundaryFrom?_isGreatest (text : String) (n : Nat) :
    ∃ p, boundaryFrom? text n = some p ∧ IsGreatest {q : text.Pos | q.offset.byteIdx ≤ n} p := by
  -- At each byte the search ends at the boundary there, or nothing is lost in going on before it.
  induction n with
  | zero =>
    refine ⟨text.startPos, pos?_eq_some_iff.mpr rfl, Nat.le_refl 0, fun q before => ?_⟩
    exact before
  | succ n ih =>
    rw [boundaryFrom?]
    cases here : text.pos? ⟨n + 1⟩ with
    | some p =>
      have there : p.offset.byteIdx = n + 1 := congrArg Pos.Raw.byteIdx (pos?_eq_some_iff.mp here)
      refine ⟨p, rfl, Nat.le_of_eq there, fun q before => ?_⟩
      exact Nat.le_trans before (Nat.le_of_eq there.symm)
    | none =>
      obtain ⟨p, found, within, last⟩ := ih
      refine ⟨p, found, Nat.le_succ_of_le within, fun q before => last ?_⟩
      -- A boundary at this very byte would have been found.
      have apart : q.offset.byteIdx ≠ n + 1 := by
        intro same
        have met : text.pos? ⟨n + 1⟩ = some q := pos?_eq_some_iff.mpr (Pos.Raw.ext same)
        cases here.symm.trans met
      exact Nat.le_of_lt_succ (Nat.lt_of_le_of_ne before apart)

/-- At most three bytes lie between byte `n` and the last boundary before it, because no character
    has more than four. -/
theorem le_add_three_of_isGreatest {p : text.Pos}
    (last : IsGreatest {q : text.Pos | q.offset.byteIdx ≤ n} p) (inside : n ≤ text.utf8ByteSize) :
    n ≤ p.offset.byteIdx + 3 := by
  by_cases ends : p = text.endPos
  · have whole : p.offset.byteIdx = text.utf8ByteSize := congrArg (·.offset.byteIdx) ends
    omega
  · have behind : n < (p.next ends).offset.byteIdx := by
      refine Nat.lt_of_not_le fun within => ?_
      exact absurd (last.2 within) (Std.not_le.mpr Pos.lt_next)
    have step := p.byteIdx_offset_next ends
    have size := (p.get ends).utf8Size_le_four
    omega

/-- Where `text` has at most `n` bytes, that boundary is `text.endPos`. -/
theorem eq_endPos_of_isGreatest {p : text.Pos}
    (last : IsGreatest {q : text.Pos | q.offset.byteIdx ≤ n} p) (inside : text.utf8ByteSize ≤ n) :
    p = text.endPos :=
  Std.le_antisymm p.le_endPos (last.2 inside)

/-- `text.sliceTo p` has as many bytes as the offset of `p` says. -/
theorem size_sliceTo (p : text.Pos) : (text.sliceTo p).copy.utf8ByteSize = p.offset.byteIdx :=
  congrArg Pos.Raw.byteIdx p.splits.offset_eq_rawEndPos.symm

end Boundaries

/-! ### The longest start that fits -/

/-- `kept` is the longest run of whole characters at the start of `text` that fits into
    `room` bytes. -/
structure Cuts (room : Nat) (text kept : String) : Prop where
  begins  : kept.toList <+: text.toList
  fits    : kept.utf8ByteSize ≤ room
  longest : ∀ start : String, start.toList <+: text.toList → start.utf8ByteSize ≤ room →
    start.toList <+: kept.toList

variable {room : Nat} {text kept : String}

/-- Two starts of one text are comparable, and the number of their bytes tells which is
    the shorter. -/
theorem isPrefix_of_size_le {start : String} (begins : start.toList <+: text.toList)
    (longer : kept.toList <+: text.toList) (size : start.utf8ByteSize ≤ kept.utf8ByteSize) :
    start.toList <+: kept.toList := by
  rcases List.prefix_or_prefix_of_prefix begins longer with within | ⟨rest, whole⟩
  · exact within
  · -- What is behind the longer one has no bytes, so there is nothing.
    have same : kept ++ String.ofList rest = start := by
      rw [← String.toList_inj, String.toList_append, String.toList_ofList, whole]
    have sum := congrArg String.utf8ByteSize same
    rw [String.utf8ByteSize_append] at sum
    have nothing : String.ofList rest = "" := String.utf8ByteSize_eq_zero_iff.mp (by omega)
    have equal : start = kept := by rw [← same, nothing, String.append_empty]
    exact equal ▸ List.prefix_rfl

/-- `Cuts` determines what is kept. -/
theorem Cuts.unique {other : String} (cuts : Cuts room text kept) (others : Cuts room text other) :
    kept = other := by
  have short : kept.toList <+: other.toList := others.longest kept cuts.begins cuts.fits
  have long : other.toList <+: kept.toList := cuts.longest other others.begins others.fits
  exact String.toList_inj.mp (short.eq_of_length_le long.length_le)

/-- **The text before the last boundary within `room` bytes satisfies `Cuts room`.** -/
theorem cuts_of_isGreatest {p : text.Pos}
    (last : IsGreatest {q : text.Pos | q.offset.byteIdx ≤ room} p) :
    Cuts room text (text.sliceTo p).copy := by
  have size := size_sliceTo p
  have within : p.offset.byteIdx ≤ room := last.1
  have begins : (text.sliceTo p).copy.toList <+: text.toList := by
    refine ⟨(text.sliceFrom p).copy.toList, ?_⟩
    rw [← String.toList_append, String.sliceTo_append_sliceFrom]
  refine ⟨begins, le_of_eq_of_le size within, fun start starts fits => ?_⟩
  -- Where the start ends there is a boundary, too, and it is not behind the cut.
  obtain ⟨rest, whole⟩ := starts
  have same : text = start ++ String.ofList rest := by
    rw [← String.toList_inj, String.toList_append, String.toList_ofList, whole]
  have ends : (Pos.ofEqAppend same).offset.byteIdx = start.utf8ByteSize :=
    congrArg Pos.Raw.byteIdx (Pos.splits_ofEqAppend same).offset_eq_rawEndPos
  have before : Pos.ofEqAppend same ≤ p := last.2 (le_of_eq_of_le ends fits)
  have order : (Pos.ofEqAppend same).offset.byteIdx ≤ p.offset.byteIdx := before
  exact isPrefix_of_size_le ⟨rest, whole⟩ begins (by omega)

/-! ### Names -/

/-- `truncatedName` is the slice before the boundary that `boundaryFrom?` finds, also where the name
    is short enough and the boundary is its end. -/
theorem truncatedName_boundary (name : String) :
    ∃ p, boundaryFrom? name maxNameBytes = some p ∧
      IsGreatest {q : name.Pos | q.offset.byteIdx ≤ maxNameBytes} p ∧
      truncatedName name = (name.sliceTo p).copy := by
  obtain ⟨p, found, last⟩ := boundaryFrom?_isGreatest name maxNameBytes
  refine ⟨p, found, last, ?_⟩
  unfold truncatedName
  split
  · next fits => rw [eq_endPos_of_isGreatest last fits, String.sliceTo_endPos, String.copy_toSlice]
  · simp only [found, Option.get_some]

/-- **`truncatedName` keeps the longest start of a name that fits into `maxNameBytes`.** -/
theorem truncatedName_cuts (name : String) : Cuts maxNameBytes name (truncatedName name) := by
  obtain ⟨p, -, last, kept⟩ := truncatedName_boundary name
  rw [kept]
  exact cuts_of_isGreatest last

/-- `truncatedName` is idempotent, so `Interface.named` may be given a name that was cut before. -/
theorem truncatedName_truncatedName (name : String) :
    truncatedName (truncatedName name) = truncatedName name :=
  if_pos (truncatedName_cuts name).fits

/-- **Of the bytes that have room, `truncatedName` gives up at most three.** -/
theorem min_size_le_truncatedName (name : String) :
    min name.utf8ByteSize maxNameBytes ≤ (truncatedName name).utf8ByteSize + 3 := by
  by_cases fits : name.utf8ByteSize ≤ maxNameBytes
  · rw [truncatedName, if_pos fits]
    omega
  · obtain ⟨p, -, last, kept⟩ := truncatedName_boundary name
    have size := size_sliceTo p
    have near := le_add_three_of_isGreatest last (Nat.le_of_not_le fits)
    rw [kept]
    omega

/-- **A name within `maxNameBytes` stands in `requestName` with all its bytes**, followed by zeros
    up to `nameRoom`. So the kernel is asked about the link that the interface is named for. -/
theorem requestName_of_fits {name : String} (fits : name.utf8ByteSize ≤ maxNameBytes) :
    requestName name = name.toUTF8.data.toList ++ List.replicate (nameRoom - name.utf8ByteSize) 0 := by
  have size : name.toUTF8.data.toList.length = name.utf8ByteSize := by
    rw [Array.length_toList]
    exact name.size_toByteArray
  have whole : name.toUTF8.data.toList.take (nameRoom - 1) = name.toUTF8.data.toList :=
    List.take_of_length_le (le_of_eq_of_le size fits)
  simp only [requestName, whole, List.drop_replicate, size]

-- Five characters of three bytes fit; seven of two bytes leave a byte unused.
example : truncatedName "日本語日本語" = "日本語日本" ∧ truncatedName "ééééééééé" = "ééééééé" := by
  decide +kernel

end CanDriver
