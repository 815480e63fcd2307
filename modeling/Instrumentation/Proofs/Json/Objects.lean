import Instrumentation.Proofs.Json.Skipping

namespace Instrumentation.Json

/-! Reading objects. Each member that the grammar knows is handed to the reader of members with
its key, in the order in which they stand; the first fault that one of them has is that of the
object. -/

/-! ## Values and members -/

def ReadsAs {Value : Type} (reader : Reader Value) (text : List Char)
    (result : Except Fault Value) : Prop :=
  ∀ blank rest, IsBlank blank → Closes rest →
    reader (blank ++ (text ++ rest)) = result.map (·, rest)

section Members

variable {State Member : Type}

def TakesUp (reader : MemberReader State) (state : State) (text : List Char)
    (result : Except Fault State) : Prop :=
  ∃ key spelled behind, Spells spelled key.toList ∧ text = quote spelled ++ behind ∧
    ∀ rest, Closes rest → reader state key (behind ++ rest) = result.map (·, rest)

theorem nextKey_append {first : Bool} {separator spelled : List Char} {key : String}
    (separates : IsSeparator first separator) (spells : Spells spelled key.toList)
    (rest : List Char) :
    nextKey first (separator ++ (quote spelled ++ rest)) = .ok (some key, rest) := by
  have named : nextKey.named (spelled ++ '"' :: rest) = .ok (some key, rest) := by
    rw [nextKey.named, readText_of_spells spells]
    rfl
  have quoted : quote spelled ++ rest = '"' :: (spelled ++ '"' :: rest) := by simp [quote]
  rw [quoted]
  cases separates with
  | first blank isBlank =>
      simp [nextKey, skipBlank_append isBlank, skipBlank_cons, Json.isBlank, named]
  | next before after isBlank blankToo =>
      simp [nextKey, skipBlank_append isBlank, skipBlank_append blankToo, skipBlank_cons,
        Json.isBlank, named]

theorem nextKey_closing (first : Bool) {blank : List Char} (isBlank : IsBlank blank)
    (rest : List Char) : nextKey first (blank ++ '}' :: rest) = .ok (none, rest) := by
  simp [nextKey, skipBlank_append isBlank, skipBlank_cons, Json.isBlank]

variable {isMember : Member → List Char → Prop}

theorem AreMembers.closes {members : List Member} {text : List Char}
    (areMembers : AreMembers isMember false members text) (rest : List Char) :
    Closes (text ++ '}' :: rest) := by
  cases areMembers with
  | nothing _ _ isBlank => exact closes_blank_append isBlank (closes_closing .object rest)
  | more _ member members separator text others separates =>
      rw [List.append_assoc]
      exact closes_separator separates _

variable {reader : MemberReader State} {put : State → Member → Except Fault State}

theorem readMembers_append
    (takes : ∀ state member text, isMember member text →
      TakesUp reader state text (put state member))
    {first : Bool} {members : List Member} {text : List Char}
    (areMembers : AreMembers isMember first members text) (state : State) (rest : List Char)
    {budget : Nat} (enough : text.length < budget) :
    readMembers reader budget first state (text ++ '}' :: rest) =
      (members.foldlM put state).map (·, rest) := by
  induction areMembers generalizing state budget with
  | nothing first blank isBlank =>
      cases budget with
      | zero => omega
      | succ budget =>
          rw [readMembers, nextKey_closing first isBlank]
          rfl
  | more first member members separator text others separates isText areMembers induction =>
      cases budget with
      | zero => omega
      | succ budget =>
          have ⟨key, spelled, behind, spells, same, taken⟩ := takes state member text isText
          have closes := areMembers.closes rest
          have fewer : others.length < budget := by
            simp only [same, quote, List.length_append, List.length_cons] at enough
            omega
          have keyed := nextKey_append separates spells (behind ++ (others ++ '}' :: rest))
          rw [same, readMembers]
          simp only [List.append_assoc, keyed, bind, Except.bind, taken _ closes,
            List.foldlM_cons]
          cases put state member with
          | error fault => rfl
          | ok later => exact induction later fewer

/-- An object is read as its members taken up one after another. -/
theorem readObject_append
    (takes : ∀ state member text, isMember member text →
      TakesUp reader state text (put state member))
    {members : List Member} {inner : List Char}
    (areMembers : AreMembers isMember true members inner) (start : State) (rest : List Char) :
    readObject reader start (inner ++ '}' :: rest) =
      (members.foldlM put start).map (·, rest) := by
  apply readMembers_append takes areMembers start rest
  simp only [List.length_append, List.length_cons]
  omega

end Members

/-! ## Members by their keys -/

theorem takesUp_of_reads {State Value : Type} {reader : MemberReader State} {state : State}
    {key : String} {value text : List Char} {result : Except Fault Value}
    {valueReader : Reader Value} {change : Value → State}
    (isMember : IsMember key value text) (reads : ReadsAs valueReader value result)
    (means : ∀ characters, reader state key characters = (do
      let (value, rest) ← valueReader (← readColon characters)
      return (change value, rest))) :
    TakesUp reader state text (result.map change) := by
  cases isMember with
  | spelled spelled gap pause spells blankGap blankPause =>
      refine ⟨key, spelled, gap ++ ':' :: (pause ++ value), spells, rfl, fun rest closes => ?_⟩
      have colon := readColon_append blankGap (pause ++ (value ++ rest))
      have read := reads pause rest blankPause closes
      rw [means]
      simp only [List.append_assoc, List.cons_append, colon, bind, Except.bind, read]
      cases result <;> rfl

theorem takesUp_of_skips {State : Type} {reader : MemberReader State} {state : State}
    {key : String} {value text : List Char} (isMember : IsMember key value text)
    (isValue : IsPart .value value)
    (means : ∀ characters, reader state key characters = (do
      return (state, ← skipValue (← readColon characters)))) :
    TakesUp reader state text (.ok state) := by
  cases isMember with
  | spelled spelled gap pause spells blankGap blankPause =>
      refine ⟨key, spelled, gap ++ ':' :: (pause ++ value), spells, rfl, fun rest closes => ?_⟩
      have colon := readColon_append blankGap (pause ++ (value ++ rest))
      have skipped := skipValue_append blankPause isValue closes
      rw [means]
      simp only [List.append_assoc, List.cons_append, colon, bind, Except.bind, skipped]
      rfl

end Instrumentation.Json
