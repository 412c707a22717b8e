import Whereabouts.Label
import Whereabouts.Proofs.Span.Union

/-!
# Positions as text

A position is printed as `file@start..stop`. The file may be any text, with marks and numbers of
its own, and what is printed can still be read back from its end: integers are written without
marks, so that the last mark of the text is the one that was printed (`append_cons_inj_of_last`).
Before it stands the rest of the position, and behind it the last number.

A label has a style in front, which its first character gives away, and a message behind. A message
can itself look like the end of a position, so labels are told apart only under the same message.
-/
namespace Whereabouts

section LastMark

variable {α : Type u} {c : α} {xs ys as bs more : List α}

/-- A list that starts with a member for the last time has nothing in front of it. -/
theorem eq_nil_of_last (last : c ∉ as) (h : c :: as = more ++ c :: bs) : more = [] := by
  cases more with
  | nil => rfl
  | cons x more =>
    have again : c ∈ as := by
      rw [(List.cons.inj h).2]
      exact List.mem_append_right more List.mem_cons_self
    exact absurd again last

theorem append_cons_inj_of_last (has : c ∉ as) (hbs : c ∉ bs) :
    xs ++ c :: as = ys ++ c :: bs ↔ xs = ys ∧ as = bs := by
  constructor
  · intro h
    rcases List.append_eq_append_iff.1 h with ⟨more, rfl, behind⟩ | ⟨more, rfl, behind⟩
    · obtain rfl := eq_nil_of_last has behind
      exact ⟨(List.append_nil xs).symm, (List.cons.inj behind).2⟩
    · obtain rfl := eq_nil_of_last hbs behind
      exact ⟨List.append_nil ys, (List.cons.inj behind).2.symm⟩
  · rintro ⟨rfl, rfl⟩
    rfl

end LastMark

/-- The characters that integers are written with. -/
def isNumeral (c : Char) : Bool := c.isDigit || c == '-'

theorem isNumeral_of_mem_toString {n : Int} {c : Char} (h : c ∈ (toString n).toList) :
    isNumeral c = true := by
  have digit {m : Nat} (h : c ∈ m.repr.toList) : isNumeral c = true := by
    rw [Nat.toList_repr] at h
    have decimal : c.isDigit = true := Nat.isDigit_of_mem_toDigits (by decide) (by decide) h
    unfold isNumeral
    rw [decimal, Bool.true_or]
  rw [Int.toString_eq_repr, Int.repr_eq_if] at h
  split at h
  · exact digit h
  · rw [String.toList_append, List.mem_append] at h
    rcases h with sign | rest
    · obtain rfl : c = '-' := List.mem_singleton.1 sign
      rfl
    · exact digit rest

theorem natRepr_inj {m n : Nat} (h : m.repr = n.repr) : m = n := by
  have digits := congrArg (fun s => Nat.ofDigitChars 10 s.toList 0) h
  simpa only [Nat.toList_repr, Nat.ofDigitChars_ten_toDigits] using digits

/-- No number without a sign is written like one with it. -/
theorem natRepr_ne_negative (m n : Nat) : m.repr ≠ "-" ++ n.repr := by
  intro h
  have sign : '-' ∈ m.repr.toList := by
    rw [h, String.toList_append]
    exact List.mem_append_left _ (List.mem_singleton.2 rfl)
  rw [Nat.toList_repr] at sign
  have digit : '-'.isDigit = true := Nat.isDigit_of_mem_toDigits (by decide) (by decide) sign
  exact absurd digit (by decide)

theorem toString_int_inj {m n : Int} (h : toString m = toString n) : m = n := by
  rw [Int.toString_eq_repr, Int.toString_eq_repr, Int.repr_eq_if, Int.repr_eq_if] at h
  by_cases hm : 0 ≤ m <;> by_cases hn : 0 ≤ n
  · rw [if_pos hm, if_pos hn] at h
    have same := natRepr_inj h
    omega
  · rw [if_pos hm, if_neg hn] at h
    exact absurd h (natRepr_ne_negative _ _)
  · rw [if_neg hm, if_pos hn] at h
    exact absurd h.symm (natRepr_ne_negative _ _)
  · rw [if_neg hm, if_neg hn, String.append_right_inj] at h
    have same := natRepr_inj h
    omega

namespace Span

variable {s t : Span} {c : Char}

theorem toList_format (s : Span) :
    s.format.toList = (toString s.start ++ ".").toList ++ '.' :: (toString s.stop).toList := by
  simp only [format, String.toList_append, List.append_assoc]
  rfl

theorem isNumeral_or_eq_dot (h : c ∈ s.format.toList) : isNumeral c = true ∨ c = '.' := by
  rw [toList_format, String.toList_append, List.mem_append, List.mem_append, List.mem_cons] at h
  rcases h with (start | mark) | mark | stop
  · exact .inl (isNumeral_of_mem_toString start)
  · exact .inr (List.mem_singleton.1 mark)
  · exact .inr mark
  · exact .inl (isNumeral_of_mem_toString stop)

theorem format_inj : s.format = t.format ↔ s = t := by
  constructor
  · intro h
    have noMark (n : Int) : '.' ∉ (toString n).toList := fun mem =>
      absurd (isNumeral_of_mem_toString mem) (by decide)
    rw [← String.toList_inj, toList_format, toList_format,
      append_cons_inj_of_last (noMark _) (noMark _)] at h
    obtain ⟨front, back⟩ := h
    have starts := (String.append_left_inj ".").1 (String.toList_inj.1 front)
    have stops := String.toList_inj.1 back
    have start : s.start = t.start := toString_int_inj starts
    have stop : s.stop = t.stop := toString_int_inj stops
    exact eq_of_bounds start stop
  · rintro rfl
    rfl

end Span

variable {f g message : String} {s t : Span}

theorem Location.format_inj :
    (Location.mk (.text f) s).format = (Location.mk (.text g) t).format ↔ f = g ∧ s = t := by
  have noMark (s : Span) : '@' ∉ s.format.toList := fun mem =>
    absurd (Span.isNumeral_or_eq_dot mem) (by decide)
  have printed (f : String) (s : Span) :
      (Location.mk (.text f) s).format.toList = f.toList ++ '@' :: s.format.toList := by
    simp only [Location.format, Value.display, String.toList_append, List.append_assoc]
    rfl
  rw [← String.toList_inj, printed, printed, append_cons_inj_of_last (noMark s) (noMark t),
    String.toList_inj, String.toList_inj, Span.format_inj]

namespace Label

variable {style style' : Style}

theorem Style.eq_of_append {x y : String} (h : style.text ++ x = style'.text ++ y) :
    style = style' := by
  have initials := congrArg (fun text => text.toList.head?) h
  cases style with
  | primary =>
    cases style' with
    | primary => rfl
    | secondary => simp [text] at initials
  | secondary =>
    cases style' with
    | primary => simp [text] at initials
    | secondary => rfl

theorem format_inj :
    (Label.mk style (.text f) s message).format = (Label.mk style' (.text g) t message).format ↔
      style = style' ∧ f = g ∧ s = t := by
  constructor
  · intro h
    have positions := (String.append_left_inj _).1 h
    rw [String.append_assoc, String.append_assoc] at positions
    obtain rfl := Style.eq_of_append positions
    have locations := (String.append_right_inj _).1 ((String.append_right_inj _).1 positions)
    exact ⟨rfl, Location.format_inj.1 locations⟩
  · rintro ⟨rfl, rfl, rfl⟩
    rfl

end Label

/-- **Printed positions are unambiguous.** The text of a span tells its bounds, and the text of a
location tells its file as well, among all files that are texts. The text of a label tells its style
too, once its message is known. Since a label has the location that it was made from, its text tells
this location. -/
theorem formats_unambiguous (style style' : Label.Style) (f g : String) (s t : Span)
    (message : String) :
    let l : Location := ⟨.text f, s⟩
    let m : Location := ⟨.text g, t⟩
    (s.format = t.format ↔ s = t) ∧
    (l.format = m.format ↔ f = g ∧ s = t) ∧
    ((Label.mk style (.text f) s message).format = (Label.mk style' (.text g) t message).format ↔
      style = style' ∧ f = g ∧ s = t) ∧
    ((∀ place, (Label.ofLocation style place message).location = place) ∧
      ((Label.ofLocation style l message).format = (Label.ofLocation style' m message).format ↔
        style = style' ∧ l = m)) := by
  intro l m
  refine ⟨Span.format_inj, Location.format_inj, Label.format_inj,
    fun place => Label.location_ofLocation style place message, Label.format_inj.trans ?_⟩
  rw [Location.mk.injEq, Value.text.injEq]

/-- A message can continue the name of a file to another position. -/
example :
    (Label.mk .primary (.text "a") ⟨0, 1⟩ "b@2..3").format =
      (Label.mk .primary (.text "a@0..1: b") ⟨2, 3⟩ "").format := by
  decide

end Whereabouts
