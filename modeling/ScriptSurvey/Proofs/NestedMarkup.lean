import Mathlib.Data.Int.Notation
import ScriptSurvey.Proofs.TagDepth

/-!
# Nested markup

In markup whose elements are all closed, the depth of a tag at a place is the number of its elements
that are open there, and of the self-closing tags in front of it: these open something that nothing
closes. Plain text, attributes and tags of other names count for nothing.
-/
namespace ScriptSurvey.Markup

/-! ## Tags -/

/-- What stands in a tag behind its name. -/
structure Attributes where
  text : List Char
  apart : text.head?.all Text.isBlank = true
  notMem_bracket : '<' ∉ text

namespace Attributes

def none : Attributes := ⟨[], rfl, by simp⟩

lemma endsName_append (attributes : Attributes) {rest : List Char} (h : endsName rest = true) :
    endsName (attributes.text ++ rest) = true := by
  obtain ⟨text, apart, -⟩ := attributes
  cases text with
  | nil => exact h
  | cons c text =>
    have hblank : Text.isBlank c = true := apart
    simp [endsName, hblank]

end Attributes

inductive Form where
  | opening
  | closing
  | selfClosing

namespace Form

def change : Form → ℤ
  | opening | selfClosing => 1
  | closing => -1

def body (form : Form) (name : List Char) (attributes : Attributes) : List Char :=
  match form with
  | opening => name ++ (attributes.text ++ ['>'])
  | closing => '/' :: (name ++ (attributes.text ++ ['>']))
  | selfClosing => name ++ (attributes.text ++ ['/', '>'])

def tag (form : Form) (name : List Char) (attributes : Attributes) : List Char :=
  '<' :: form.body name attributes

section

variable {tag name : List Char} (form : Form) (attributes : Attributes) (rest : List Char)

lemma notMem_body (hname : IsName name) : '<' ∉ form.body name attributes := by
  cases form <;> simp [body, hname.notMem_bracket, attributes.notMem_bracket]

lemma tagChange_body (htag : IsName tag) (hname : IsName name) :
    (tagChange tag (form.body name attributes ++ rest)).1 =
      if name = tag then form.change else 0 := by
  have hslash (rest : List Char) : (name ++ rest).head? ≠ some '/' := by
    obtain ⟨c, name, rfl⟩ := List.exists_cons_of_ne_nil hname.ne_nil
    intro hhead
    have hc := hname.isNameChar c (List.mem_cons_self ..)
    rw [Option.some.inj hhead, isNameChar_slash] at hc
    cases hc
  have hread {rest : List Char} (h : endsName rest = true) :
      nameOf (name ++ (attributes.text ++ rest)) = name :=
    nameOf_append hname.isNameChar (attributes.endsName_append h)
  cases form with
  | opening =>
    simp only [body, List.append_assoc]
    rw [tagChange_of_not_slash htag (hslash _), hread rfl]
    rfl
  | closing =>
    simp only [body, List.cons_append, List.append_assoc]
    rw [tagChange_slash htag, hread rfl]
    rfl
  | selfClosing =>
    simp only [body, List.append_assoc]
    rw [tagChange_of_not_slash htag (hslash _), hread rfl]
    rfl

lemma depthFrom_tag (htag : IsName tag) (hname : IsName name) :
    depthFrom tag 0 (form.tag name attributes ++ rest) =
      (if name = tag then form.change else 0) + depthFrom tag 0 rest := by
  rw [Form.tag, List.cons_append, depthFrom_bracket htag.notMem_bracket,
    tagChange_body form attributes rest htag hname,
    depthFrom_append (notMem_body form attributes hname)]

lemma depthFrom_own (htag : IsName tag) : depthFrom tag 0 (form.tag tag attributes ++ rest) =
    form.change + depthFrom tag 0 rest := by
  rw [depthFrom_tag form attributes rest htag htag, if_pos rfl]

lemma depthFrom_other (htag : IsName tag) (hname : IsName name) (hne : name ≠ tag) :
    depthFrom tag 0 (form.tag name attributes ++ rest) = depthFrom tag 0 rest := by
  rw [depthFrom_tag form attributes rest htag hname, if_neg hne, Int.zero_add]

/-- An element opens and closes one depth, so that only what is in it counts. -/
lemma depthFrom_element (htag : IsName tag) {inner : List Char} {depth : ℤ}
    (h : ∀ rest, depthFrom tag 0 (inner ++ rest) = depth + depthFrom tag 0 rest) :
    depthFrom tag 0
        (opening.tag tag attributes ++ inner ++ closing.tag tag .none ++ rest) =
      depth + depthFrom tag 0 rest := by
  rw [List.append_assoc, List.append_assoc, depthFrom_own _ _ _ htag, h, depthFrom_own _ _ _ htag]
  simp only [change]
  omega

end

end Form

/-! ## Content -/

/-- Markup in which every element of the tag is closed. -/
inductive Content (tag : List Char) where
  | nil
  | text (chars : List Char) (plain : '<' ∉ chars) (rest : Content tag)
  | element (attributes : Attributes) (inner rest : Content tag)
  | selfClosing (attributes : Attributes) (rest : Content tag)
  | other (form : Form) (name : List Char) (isName : IsName name) (ne : name ≠ tag)
      (attributes : Attributes) (rest : Content tag)

namespace Content

variable {tag : List Char}

def written : Content tag → List Char
  | nil => []
  | text chars _ rest => chars ++ rest.written
  | element attributes inner rest =>
    Form.opening.tag tag attributes ++ inner.written ++ Form.closing.tag tag .none ++ rest.written
  | selfClosing attributes rest => Form.selfClosing.tag tag attributes ++ rest.written
  | other form name _ _ attributes rest => form.tag name attributes ++ rest.written

def singles : Content tag → ℕ
  | nil => 0
  | text _ _ rest => rest.singles
  | element _ inner rest => inner.singles + rest.singles
  | selfClosing _ rest => rest.singles + 1
  | other _ _ _ _ _ rest => rest.singles

/-- The front of the content up to a place between two of its parts. So many elements of the tag are
open there, and so many self-closing tags stand in front. -/
inductive Front : Content tag → (opened singles : ℕ) → List Char → Prop
  | here (content : Content tag) : Front content 0 0 []
  | text {chars plain rest n s front} : Front rest n s front →
      Front (.text chars plain rest) n s (chars ++ front)
  | inside {attributes inner rest n s front} : Front inner n s front →
      Front (.element attributes inner rest) (n + 1) s (Form.opening.tag tag attributes ++ front)
  | element {attributes inner rest n s front} : Front rest n s front →
      Front (.element attributes inner rest) n (inner.singles + s)
        (Form.opening.tag tag attributes ++ inner.written ++ Form.closing.tag tag .none ++ front)
  | selfClosing {attributes rest n s front} : Front rest n s front →
      Front (.selfClosing attributes rest) n (s + 1) (Form.selfClosing.tag tag attributes ++ front)
  | other {form name isName ne attributes rest n s front} : Front rest n s front →
      Front (.other form name isName ne attributes rest) n s (form.tag name attributes ++ front)

/-- By induction on the content. -/
lemma depthFrom_written (htag : IsName tag) (content : Content tag) (rest : List Char) :
    depthFrom tag 0 (content.written ++ rest) = content.singles + depthFrom tag 0 rest := by
  induction content generalizing rest with
  | nil => simp [written, singles]
  | text chars plain content ih =>
    rw [written, List.append_assoc, depthFrom_append plain, ih, singles]
  | element attributes inner content ihInner ih =>
    rw [written, List.append_assoc, Form.depthFrom_element _ _ htag ihInner, ih, singles]
    omega
  | selfClosing attributes content ih =>
    rw [written, List.append_assoc, Form.depthFrom_own _ _ _ htag, ih, singles, Form.change]
    omega
  | other form name isName ne attributes content ih =>
    rw [written, List.append_assoc, Form.depthFrom_other _ _ _ htag isName ne, ih, singles]

section

variable {content : Content tag} {opened before : ℕ} {front : List Char}

/-- A front is a beginning of the content, with no more self-closing tags. -/
lemma Front.prefix_written (h : Front content opened before front) :
    front <+: content.written ∧ before ≤ content.singles := by
  induction h with
  | here => exact ⟨List.nil_prefix, Nat.zero_le _⟩
  | text _ ih => exact ⟨(List.prefix_append_right_inj _).mpr ih.1, ih.2⟩
  | inside _ ih =>
    refine ⟨?_, Nat.le_add_right_of_le ih.2⟩
    simp only [written, List.append_assoc]
    exact (List.prefix_append_right_inj _).mpr (ih.1.trans (List.prefix_append ..))
  | element _ ih =>
    exact ⟨(List.prefix_append_right_inj _).mpr ih.1, Nat.add_le_add_left ih.2 _⟩
  | selfClosing _ ih =>
    exact ⟨(List.prefix_append_right_inj _).mpr ih.1, Nat.succ_le_succ ih.2⟩
  | other _ ih => exact ⟨(List.prefix_append_right_inj _).mpr ih.1, ih.2⟩

/-- By induction on the way to the place. An element that is passed over leaves its self-closing
tags behind, one that the place is in opens a depth. -/
lemma Front.depthFrom (htag : IsName tag) (h : Front content opened before front) :
    depthFrom tag 0 front = opened + before := by
  induction h with
  | here => rfl
  | @text _ plain _ _ _ _ _ ih => rw [depthFrom_append plain, ih]
  | inside _ ih =>
    rw [Form.depthFrom_own _ _ _ htag, ih, Form.change]
    omega
  | element _ ih =>
    rw [Form.depthFrom_element _ _ htag (depthFrom_written htag _), ih]
    omega
  | selfClosing _ ih =>
    rw [Form.depthFrom_own _ _ _ htag, ih, Form.change]
    omega
  | @other _ _ isName ne _ _ _ _ _ _ ih => rw [Form.depthFrom_other _ _ _ htag isName ne, ih]

end

end Content

/-- In well-nested markup the depth of a tag at a place between two parts is the number of its
elements that are open there and of the self-closing tags of its name that stand in front. Over the
whole markup it is the number of these tags alone. -/
theorem tagDepth_nested (tag : String) (htag : IsName tag.toList) (content : Content tag.toList) :
    tagDepth content.written tag = content.singles ∧
    ∀ opened before front, content.Front opened before front →
      front <+: content.written ∧ before ≤ content.singles ∧
        tagDepth front tag = opened + before := by
  refine ⟨?_, fun opened before front h => ?_⟩
  · have hdepth := content.depthFrom_written htag []
    rwa [List.append_nil, depthFrom, Int.add_zero] at hdepth
  · exact ⟨h.prefix_written.1, h.prefix_written.2, h.depthFrom htag⟩

/-- An element that holds a tag of a longer name, a comparison and a self-closing tag. -/
def pugContent : Content "template".toList :=
  .element ⟨" lang=\"pug\"".toList, by decide +kernel, by decide +kernel⟩
    (.other .opening "templates".toList (by decide +kernel) (by decide) .none
      (.text "x > y".toList (by decide) (.selfClosing .none .nil))) .nil

theorem tagDepth_nested_pug :
    let front := "<template lang=\"pug\"><templates>x > y<template/>".toList
    IsName "template".toList ∧ pugContent.Front 1 1 front ∧ tagDepth front "template" = 2 ∧
      tagDepth pugContent.written "template" = 1 := by
  intro front
  have htag : IsName "template".toList := by decide +kernel
  have hfront : pugContent.Front 1 1 front := .inside (.other (.text (.selfClosing (.here _))))
  obtain ⟨hwhole, hdepth⟩ := tagDepth_nested "template" htag pugContent
  exact ⟨htag, hfront, (hdepth 1 1 front hfront).2.2, hwhole⟩

/-- A self-closing tag is all of the markup, so that no element is open behind it. But the depth
there is not zero. -/
theorem selfClosing_left_open :
    let content : Content "template".toList := .selfClosing .none .nil
    content.written = "<template/>".toList ∧ content.Front 0 1 content.written ∧
      tagDepth content.written "template" = 1 := by
  intro content
  exact ⟨rfl, .selfClosing (.here _), by decide +kernel⟩

end ScriptSurvey.Markup
