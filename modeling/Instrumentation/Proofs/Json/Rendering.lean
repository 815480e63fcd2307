import Instrumentation.Json.Document
import Instrumentation.Proofs.Json.Grammar
import Mathlib.Data.List.Forall2

namespace Instrumentation.Json

/-! Documents are rendered as the grammar has it: the escapes of a string spell it, and the
members of an object stand one after another with commas between them. -/

namespace Document

theorem shortEscape_escapeLetter {character letter : Char}
    (named : escapeLetter? character = some letter) :
    shortEscape? letter = some character := by
  unfold escapeLetter? at named
  split at named <;> cases named <;> rfl

theorem hexUnit_control : ∀ code < 0x20,
    hexUnit? '0' '0' (hexDigit (code / 16)) (hexDigit (code % 16)) = some code := by
  decide

theorem spells_escape_cons (character : Char) {text characters : List Char}
    (more : Spells text characters) :
    Spells (escape character ++ text) (character :: characters) := by
  unfold escape
  split
  · next letter named =>
      exact .short letter character text characters (shortEscape_escapeLetter named) more
  · next unnamed =>
      split
      · next control =>
          have small : isLeading character.toNat = false ∧ isTrailing character.toNat = false := by
            simp [isLeading, isTrailing]
            omega
          have spelled := Spells.unit _ _ _ _ character.toNat text characters
            (hexUnit_control character.toNat control) small.1 small.2 more
          rwa [Char.ofNat_toNat] at spelled
      · next visible =>
          refine .plain character text characters (Nat.not_lt.1 visible) ?_ ?_ more
          · intro same
            rw [same] at unnamed
            cases unnamed
          · intro same
            rw [same] at unnamed
            cases unnamed

theorem spells_escape (characters : List Char) :
    Spells (characters.flatMap escape) characters := by
  induction characters with
  | nil => exact .nothing
  | cons character characters induction => exact spells_escape_cons character induction

theorem isMember_render (key : String) (value : List Char) :
    IsMember key value (renderText key ++ ':' :: value) :=
  .spelled (key.toList.flatMap escape) [] [] (spells_escape key.toList) nofun nofun

theorem renderMembers_cons (member : String × Document) (members : List (String × Document)) :
    renderMembers (member :: members) = (renderText member.1 ++ ':' :: member.2.render) ++
      (if members.isEmpty then [] else ',' :: renderMembers members) := by
  cases members <;> simp [renderMembers]

theorem areMembers_render {Member : Type} {isMember : Member → List Char → Prop}
    {members : List Member} {pairs : List (String × Document)}
    (rendered : List.Forall₂ (fun member pair =>
      isMember member (renderText pair.1 ++ ':' :: pair.2.render)) members pairs) :
    AreMembers isMember true members (renderMembers pairs) := by
  have following : AreMembers isMember false members
        (if pairs.isEmpty then [] else ',' :: renderMembers pairs) ∧
      AreMembers isMember true members (renderMembers pairs) := by
    induction rendered with
    | nil => exact ⟨.nothing false [] nofun, .nothing true [] nofun⟩
    | cons isText rendered induction =>
        rw [renderMembers_cons]
        exact ⟨.more false _ _ [','] _ _ (.next [] [] nofun nofun) isText induction.1,
          .more true _ _ [] _ _ (.first [] nofun) isText induction.1⟩
  exact following.2

theorem isObject_render {Member : Type} {isMember : Member → List Char → Prop}
    {members : List Member} {pairs : List (String × Document)}
    (rendered : List.Forall₂ (fun member pair =>
      isMember member (renderText pair.1 ++ ':' :: pair.2.render)) members pairs) :
    IsObject isMember members (object pairs).render := by
  have inner := areMembers_render rendered
  exact .braces _ inner

end Document

end Instrumentation.Json
