import Registrar.Proofs.Query.Selections
import Registrar.Query.Grouping

/-
  This file proves from which documents groupings are read: a
  decoded document states a grouping exactly if it is the
  document of one with at least one key, and with rules whose
  names differ.

  Key definitions include:
    * `AppliedRule.IsWellFormed`
    * `Grouping.IsWellFormed`

  Main statements:
    * `AppliedRule.ofJson_eq_ok_iff`
    * `Grouping.ofJson_eq_ok_iff`
-/

------------------------------------------------------------
-- Rules
------------------------------------------------------------

namespace Registrar

namespace AppliedRule

/- A rule that can be stated in a query. -/
structure IsWellFormed (rule : AppliedRule) : Prop where
  name_wellFormed : IsAppliedName rule.name
  key_wellFormed : rule.key.IsWellFormed

private theorem ofBody_eq_ok_iff
    {name : String}
    {members : Directory Json}
    {rule : AppliedRule} :
    ofBody name members = .ok rule ↔
      rule.name = name ∧ rule.key.IsWellFormed ∧
        members =
          [(rule.aggregate.word, .text rule.key.text)] := by
  constructor
  · intro h
    unfold ofBody at h
    split at h
    · next word target =>
        split at h
        · cases h
        · next aggregate hAggregate =>
            split at h
            · cases h
            · next input hInput =>
                rcases bind_eq_ok_iff.mp h with ⟨key, hKey, hEq⟩
                cases hEq
                rcases Key.ofText_eq_ok_iff.mp hKey with
                  ⟨rfl, hWellFormed⟩
                have hWord := List.find?_some hAggregate
                refine ⟨rfl, hWellFormed, ?_⟩
                rw [Json.text?_eq_some_iff.mp hInput,
                  of_decide_eq_true hWord]
    · cases h
  · rintro ⟨rfl, hKey, rfl⟩
    have hRead := Key.ofText_eq_ok_iff.mpr ⟨rfl, hKey⟩
    simp [ofBody, Aggregate.parse_word, Json.text?, hRead]

/- A rule is read from its own document only. -/
theorem ofJson_eq_ok_iff
    {document : Json}
    {rule : AppliedRule} :
    ofJson document = .ok rule ↔
      document = rule.toJson ∧ rule.IsWellFormed := by
  constructor
  · intro h
    unfold ofJson at h
    split at h
    · unfold ofMembers at h
      split at h
      · next name body =>
          split at h
          · next hName =>
              split at h
              · cases h
              · next members hMembers =>
                  rcases ofBody_eq_ok_iff.mp h with
                    ⟨rfl, hKey, rfl⟩
                  rw [Json.object?_eq_some_iff.mp hMembers]
                  exact ⟨rfl, hName, hKey⟩
          · cases h
      · cases h
    · cases h
  · rintro ⟨rfl, hName, hKey⟩
    have hBody := ofBody_eq_ok_iff.mpr ⟨rfl, hKey, rfl⟩
    simp [ofJson, toJson, Json.single, ofMembers, hName,
      Json.object?, hBody]

/- Rules with new names are read from their documents. -/
private theorem ofItems_eq_ok_iff
    {taken : List String}
    {items : List Json}
    {rules : List AppliedRule} :
    ofItems taken items = .ok rules ↔
      items = rules.map toJson ∧
        (∀ rule ∈ rules,
          rule.IsWellFormed ∧ rule.name ∉ taken) ∧
        (rules.map AppliedRule.name).Nodup := by
  induction items generalizing taken rules with
  | nil => cases rules <;> simp [ofItems]
  | cons item rest ih =>
      unfold ofItems
      rw [bind_eq_ok_iff]
      simp only [ofJson_eq_ok_iff]
      constructor
      · rintro ⟨rule, ⟨rfl, hRule⟩, h⟩
        split at h
        · cases h
        · next hNew =>
            rcases bind_eq_ok_iff.mp h with
              ⟨others, hOthers, hEq⟩
            cases hEq
            rcases ih.mp hOthers with ⟨rfl, hAll, hNodup⟩
            refine ⟨rfl, ?_, ?_⟩
            · rw [List.forall_mem_cons]
              refine ⟨⟨hRule, hNew⟩, ?_⟩
              intro other hMem
              rcases hAll other hMem with ⟨hOther, hFresh⟩
              exact ⟨hOther, fun hTaken =>
                hFresh (List.mem_cons_of_mem _ hTaken)⟩
            · apply List.nodup_cons.mpr
              refine ⟨?_, hNodup⟩
              intro hMem
              rcases List.mem_map.mp hMem with
                ⟨other, hOther, hEq⟩
              exact (hAll other hOther).2
                (hEq ▸ List.mem_cons_self)
      · rintro ⟨hItems, hAll, hNodup⟩
        cases rules with
        | nil => cases hItems
        | cons rule others =>
            rcases List.cons.inj hItems with ⟨rfl, hRest⟩
            rcases List.forall_mem_cons.mp hAll with
              ⟨⟨hRule, hNew⟩, hOthers⟩
            rcases List.nodup_cons.mp hNodup with
              ⟨hFirst, hLater⟩
            have hRead : ofItems (rule.name :: taken) rest =
                .ok others := by
              refine ih.mpr ⟨hRest, ?_, hLater⟩
              intro other hMem
              rcases hOthers other hMem with ⟨hOther, hFresh⟩
              refine ⟨hOther, ?_⟩
              rw [List.mem_cons, not_or]
              refine ⟨?_, hFresh⟩
              intro hEq
              exact hFirst (hEq ▸ List.mem_map_of_mem hMem)
            refine ⟨rule, ⟨rfl, hRule⟩, ?_⟩
            rw [if_neg hNew, hRead]
            rfl

end AppliedRule

------------------------------------------------------------
-- Groupings
------------------------------------------------------------

namespace Grouping

/- A grouping that can be stated in a query. -/
structure IsWellFormed (grouping : Grouping) : Prop where
  keys_ne_nil : grouping.keys ≠ []
  keys_wellFormed : ∀ key ∈ grouping.keys, key.IsWellFormed
  rules_wellFormed :
    ∀ rule ∈ grouping.rules, rule.IsWellFormed
  names_nodup : (grouping.rules.map AppliedRule.name).Nodup

private theorem mapM_keyOf_eq_ok_iff
    {names : List String}
    {keys : List Key} :
    names.mapM keyOf = .ok keys ↔
      names = keys.map Key.text ∧
        ∀ key ∈ keys, key.IsWellFormed := by
  apply mapM_eq_ok_iff_map
  intro name key
  unfold keyOf
  split
  · exact Key.ofText_eq_ok_iff
  · next hNone =>
      constructor
      · intro h
        cases h
      · rintro ⟨rfl, -⟩
        exact absurd key.underscore_mem_text hNone

private theorem ofMembers_eq_ok_iff
    {members : Directory Json}
    {grouping : Grouping}
    (hAscending : members.Ascending) :
    ofMembers members = .ok grouping ↔
      Json.object members = grouping.toJson ∧
        grouping.IsWellFormed := by
  constructor
  · intro h
    unfold ofMembers at h
    split at h
    · cases h
    · next hExpected =>
        split at h
        · cases h
        · next group hGroup =>
            rcases bind_eq_ok_iff.mp h with
              ⟨names, hNames, hRest⟩
            rcases bind_eq_ok_iff.mp hRest with
              ⟨keys, hKeys, hLast⟩
            rcases Json.someTexts_eq_ok_iff.mp hNames with
              ⟨rfl, hNe⟩
            rcases mapM_keyOf_eq_ok_iff.mp hKeys with
              ⟨rfl, hNamed⟩
            split at hLast
            · cases hLast
            · next apply hApply =>
                split at hLast
                · cases hLast
                · next items hItems =>
                    rcases bind_eq_ok_iff.mp hLast with
                      ⟨rules, hRules, hEq⟩
                    cases hEq
                    rcases AppliedRule.ofItems_eq_ok_iff.mp
                        hRules with
                      ⟨rfl, hAll, hNodup⟩
                    have hList := Json.list?_eq_some_iff.mp hItems
                    have hMembers :=
                      Directory.eq_of_unexpected?_eq_none
                        hAscending (by decide) hExpected
                    refine ⟨?_, ?_, hNamed, ?_, hNodup⟩
                    · rw [hMembers]
                      simp [Directory.entriesOf, hGroup, hApply,
                        hList, toJson]
                    · rintro rfl
                      exact hNe rfl
                    · exact fun rule hMem => (hAll rule hMem).1
  · rintro ⟨hDocument, hGrouping⟩
    cases hDocument
    have hNames :
        (Json.ofTexts (grouping.keys.map Key.text)).someTexts
          "GROUP" = .ok (grouping.keys.map Key.text) := by
      apply Json.someTexts_eq_ok_iff.mpr
      exact ⟨rfl, by simpa using hGrouping.keys_ne_nil⟩
    have hKeys := mapM_keyOf_eq_ok_iff.mpr
      ⟨rfl, hGrouping.keys_wellFormed⟩
    have hRules :
        AppliedRule.ofItems []
          (grouping.rules.map AppliedRule.toJson) =
            .ok grouping.rules := by
      apply AppliedRule.ofItems_eq_ok_iff.mpr
      refine ⟨rfl, ?_, hGrouping.names_nodup⟩
      intro rule hMem
      exact ⟨hGrouping.rules_wellFormed rule hMem,
        List.not_mem_nil⟩
    simp [ofMembers, Directory.unexpected?, Directory.names,
      Directory.find?, hNames, hKeys, Json.list?, hRules]

/- A grouping is read from its own document only. -/
theorem ofJson_eq_ok_iff
    {document : Json}
    {grouping : Grouping}
    (hDecoded : document.Decoded) :
    ofJson document = .ok grouping ↔
      document = grouping.toJson ∧ grouping.IsWellFormed := by
  cases document with
  | object members =>
      rw [Json.Decoded] at hDecoded
      exact ofMembers_eq_ok_iff hDecoded.1
  | _ => simp [ofJson, toJson]

end Grouping

end Registrar
