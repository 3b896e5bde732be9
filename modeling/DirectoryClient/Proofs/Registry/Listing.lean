import DirectoryClient.Proofs.Text.Ascii
import DirectoryClient.Proofs.Text.Parts
import DirectoryClient.Registry.Basic
import Mathlib.Algebra.GroupWithZero.Nat
import Mathlib.Data.List.Basic

/-!
# The listing of a registry

A registry is listed with a line for every server.  The line shows the host and the base context as
they are, line ends included.

* `Text.lines`              the lines of a text (`lines_intercalate`);
* `ServerRecord.breaks`     the line ends in what a line shows of a server (`count_line`);
* `line_numbered`, `line_marked_iff`   how a line begins and ends;
* `lines_dump`, `length_lines_dump`    the lines of a listing, and how many there are;
* `Registry.IsPlain`        a listing with one numbered line for every server, in which the default
                            server alone is marked;
* `isPlain_iff`             that is so exactly if no host and no context has a line end in it.
-/

namespace DirectoryClient

open DirectoryClient.Text

namespace Text

def lines (s : String) : List (List Char) := cut (· == '\n') s.toList

theorem length_lines (s : String) : (lines s).length = s.toList.count '\n' + 1 := length_cut _ _

theorem lines_of_count_eq_zero {s : String} (h : s.toList.count '\n' = 0) : lines s = [s.toList] := by
  refine cut_of_forall_not fun c hc => beq_eq_false_iff_ne.mpr ?_
  rintro rfl
  exact List.count_eq_zero.mp h hc

theorem lines_intercalate {l : List String} (h : l ≠ []) :
    lines ("\n".intercalate l) = l.flatMap lines := by
  obtain ⟨s, l, rfl⟩ := List.exists_cons_of_ne_nil h
  rw [lines, String.toList_intercalate, List.map_cons, List.flatMap_cons]
  refine (cut_intercalate (by decide) s.toList (l.map String.toList)).trans ?_
  rw [List.flatMap_map]
  rfl

theorem count_newline_toDigits (n : Nat) : (Nat.toDigits 10 n).count '\n' = 0 := by
  refine List.count_eq_zero.mpr fun h => ?_
  rw [← toList_toString] at h
  exact absurd (isDigit_of_mem_toString h) (by decide)

end Text

/-- the line ends in the host and in the base context -/
def ServerRecord.breaks (x : ServerRecord) : Nat :=
  x.host.toList.count '\n' + x.contextText.toList.count '\n'

namespace Registry

/-! ## One line -/

/-- Whatever else a line shows has no line end in it. -/
theorem count_line (i : Nat) (s : Server) : (line i s).toList.count '\n' = s.record.breaks := by
  have hscheme (x : Security) : x.scheme.toList.count '\n' = 0 := by cases x <;> decide
  have horigin (x : Origin) : x.name.toList.count '\n' = 0 := by cases x <;> decide
  have hmark : (if i = 0 then " DEFAULT" else "").toList.count '\n' = 0 := by split <;> decide
  simp [line, ServerRecord.text, endpoint, List.count_append, hscheme, horigin, hmark,
    count_newline_toDigits, ServerRecord.breaks]

theorem line_numbered (i : Nat) (s : Server) :
    (toString i ++ ":").toList <+: (line i s).toList := by
  refine ⟨(" " ++ s.record.text ++ (if i = 0 then " DEFAULT" else "")).toList, ?_⟩
  simp only [line, String.toList_append, List.append_assoc]
  rfl

/-- The lines of all servers but the default one end with a bracket. -/
theorem line_marked_iff (i : Nat) (s : Server) : " DEFAULT".toList <:+ (line i s).toList ↔ i = 0 := by
  constructor
  · refine fun hmark => Decidable.byContradiction fun hi => ?_
    have hbracket : ")".toList <:+ (line i s).toList := by
      simp only [line, ServerRecord.text, if_neg hi, String.append_empty, String.toList_append]
      exact List.suffix_append_of_suffix (List.suffix_append _ _)
    have hlast : ")".toList <:+ " DEFAULT".toList :=
      List.suffix_of_suffix_length_le hbracket hmark (by decide)
    exact absurd hlast (by decide)
  · intro hi
    rw [line, if_pos hi, String.toList_append]
    exact List.suffix_append _ _

/-! ## All of them -/

/-- The lines about one server follow those about the one before it. -/
theorem lines_dump (r : Registry) :
    lines r.dump = r.servers.zipIdx.flatMap fun p => lines (line p.2 p.1) := by
  have hne : (r.servers.zipIdx.map fun p => line p.2 p.1) ≠ [] := List.cons_ne_nil _ _
  refine (lines_intercalate hne).trans ?_
  rw [List.flatMap_map]

theorem length_lines_zipIdx (l : List Server) (k : Nat) :
    ((l.zipIdx k).flatMap fun p => lines (line p.2 p.1)).length =
      l.length + (l.map fun s => s.record.breaks).sum := by
  induction l generalizing k with
  | nil => rfl
  | cons s l ih =>
    have hfirst : (lines (line k s)).length = s.record.breaks + 1 := by
      rw [length_lines, count_line]
    rw [List.zipIdx_cons, List.flatMap_cons, List.length_append, ih, hfirst, List.length_cons,
      List.map_cons, List.sum_cons]
    omega

/-- There are as many lines as servers and line ends in what is shown of them. -/
theorem length_lines_dump (r : Registry) :
    (lines r.dump).length = r.size + (r.records.map ServerRecord.breaks).sum := by
  rw [lines_dump, length_lines_zipIdx, size, records, List.map_map]
  rfl

theorem lines_dump_of_unbroken {r : Registry} (h : ∀ x ∈ r.records, x.breaks = 0) :
    lines r.dump = r.servers.zipIdx.map fun p => (line p.2 p.1).toList := by
  rw [lines_dump, List.map_eq_flatMap]
  refine List.flatMap_congr fun p hp => lines_of_count_eq_zero ?_
  rw [count_line]
  exact h _ (List.mem_map_of_mem (List.fst_mem_of_mem_zipIdx hp))

/-- A listing tells the servers apart. -/
structure IsPlain (r : Registry) : Prop where
  /-- one line for every server, in their order -/
  each : lines r.dump = r.servers.zipIdx.map fun p => (line p.2 p.1).toList
  numbered : ∀ (i : Nat) l, (lines r.dump)[i]? = some l → (toString i ++ ":").toList <+: l
  /-- the line of the default server, and no other, ends with the mark -/
  marked : ∀ (i : Nat) l, (lines r.dump)[i]? = some l → (" DEFAULT".toList <:+ l ↔ i = 0)

theorem IsPlain.size_eq {r : Registry} (h : r.IsPlain) : (lines r.dump).length = r.size := by
  rw [h.each, List.length_map, List.length_zipIdx, size]

theorem IsPlain.of_each {r : Registry}
    (h : lines r.dump = r.servers.zipIdx.map fun p => (line p.2 p.1).toList) : r.IsPlain := by
  have hline (i : Nat) (l : List Char) (hl : (lines r.dump)[i]? = some l) :
      ∃ s, l = (line i s).toList := by
    rw [h, List.getElem?_map, List.getElem?_zipIdx, Nat.zero_add] at hl
    obtain ⟨p, hp, rfl⟩ := Option.map_eq_some_iff.mp hl
    obtain ⟨s, -, rfl⟩ := Option.map_eq_some_iff.mp hp
    exact ⟨s, rfl⟩
  refine ⟨h, fun i l hl => ?_, fun i l hl => ?_⟩
  · obtain ⟨s, rfl⟩ := hline i l hl
    exact line_numbered i s
  · obtain ⟨s, rfl⟩ := hline i l hl
    exact line_marked_iff i s

/-- Even the number of lines is wrong where something breaks a line. -/
theorem isPlain_iff {r : Registry} : r.IsPlain ↔ ∀ x ∈ r.records, x.breaks = 0 := by
  constructor
  · intro h x hx
    have hsum : (r.records.map ServerRecord.breaks).sum = 0 := by
      have hlen := r.length_lines_dump
      rw [h.size_eq] at hlen
      omega
    exact List.sum_eq_zero_iff_forall_eq_nat.mp hsum _ (List.mem_map_of_mem hx)
  · exact fun h => .of_each (lines_dump_of_unbroken h)

end Registry

end DirectoryClient
