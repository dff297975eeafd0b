import PathTemplate.Token.Lexer
/-!
# The tokens of a template

What holds of every token that is read from a template: placeholders have valid names, and literal
text is never empty and never ends with the separator. A separator can be inside literal text, where
a placeholder was begun and turned out to be none, but then the optional marker comes after it.
-/

namespace PathTemplate

/-- What every token of a template is. -/
def Token.IsRead (o : Options) : Token → Prop
  | .literal text => ∃ c ∈ text.toList.getLast?, c ≠ o.separator
  | .separator => True
  | .placeholder name _ => validName name = true

namespace Options

theorem nodup_of_firstClash? {ms : List (Marker × Char)} (h : firstClash? ms = none) :
    (ms.map (·.2)).Nodup := by
  induction ms with
  | nil => exact List.nodup_nil
  | cons m ms ih =>
    rw [firstClash?] at h
    split at h
    · cases h
    · next hf =>
      refine List.nodup_cons.2 ⟨fun hm => ?_, ih h⟩
      obtain ⟨x, hx, he⟩ := List.mem_map.1 hm
      exact List.find?_eq_none.1 hf x hx (decide_eq_true he)

/-- The markers of usable options are four different characters. -/
theorem nodup_markers {o : Options} (ho : o.fault? = none) :
    [o.startMarker, o.endMarker, o.separator, o.optionalMarker].Nodup := by
  rw [fault?] at ho
  split at ho
  · cases ho
  · next h => exact nodup_of_firstClash? h

end Options

namespace Token

variable {o : Options}

/-- Literal text that is added makes a token that may be read, unless it ends with a separator. -/
theorem isRead_of_mem_addText {text : List Char} {done : List Token}
    (hd : ∀ t ∈ done, t.IsRead o) (ht : text.getLast? ≠ some o.separator) :
    ∀ t ∈ addText text done, t.IsRead o := by
  cases htext : text.getLast? with
  | none =>
    rw [List.getLast?_eq_none_iff.1 htext]
    exact hd
  | some c =>
    have hc : c ≠ o.separator := fun he => ht (he ▸ htext)
    have hl : (literal (String.ofList text)).IsRead o := ⟨c, by simpa using htext, hc⟩
    unfold addText
    split
    · exact hd
    · next before done _ =>
      rintro t hm
      rcases List.mem_cons.1 hm with rfl | hm
      · refine ⟨c, ?_, hc⟩
        simp [List.getLast?_append, htext]
      · exact hd t (List.mem_cons_of_mem _ hm)
    · rintro t hm
      rcases List.mem_cons.1 hm with rfl | hm
      · exact hl
      · exact hd t hm

end Token

namespace Lexer

/-- What holds while a template is read. Unless a placeholder is open, the characters at hand do not
end with a separator. -/
structure State.IsSound (o : Options) (s : State) : Prop where
  done : ∀ t ∈ s.done, t.IsRead o
  run : s.mode ≠ .placeholder → s.run.head? ≠ some o.separator

namespace State.IsSound

variable {o : Options} {s s' : State} {c : Char}

theorem flushed (h : s.IsSound o) (hm : s.mode ≠ .placeholder) : ∀ t ∈ s.flushed, t.IsRead o :=
  Token.isRead_of_mem_addText h.done (by simpa using h.run hm)

theorem readText (h : s.IsSound o) (hm : s.mode ≠ .placeholder) (c : Char) :
    (s.readText o c).IsSound o := by
  unfold State.readText
  split
  · refine ⟨fun t ht => ?_, by simp⟩
    rcases List.mem_cons.1 ht with rfl | ht
    · trivial
    · exact h.flushed hm t ht
  · next hc =>
    split
    · exact ⟨h.flushed hm, fun hp => absurd rfl hp⟩
    · exact ⟨h.done, fun _ => by simpa using hc⟩

theorem close (h : s.IsSound o) {name : List Char} {optional : Bool}
    (hs : s.close name optional c = .ok s') : s'.IsSound o := by
  unfold State.close at hs
  split at hs
  · next hv =>
    cases hs
    refine ⟨fun t ht => ?_, by simp⟩
    rcases List.mem_cons.1 ht with rfl | ht
    · exact hv
    · exact h.done t ht
  · cases hs

/-- Reading a character keeps what holds. -/
theorem read (ho : o.fault? = none) (h : s.IsSound o) (hs : s.read o c = .ok s') :
    s'.IsSound o := by
  have hn : o.optionalMarker ≠ o.separator := by
    have := Options.nodup_markers ho
    simp_all [eq_comm]
  unfold State.read at hs
  split at hs
  · next hm =>
    cases hs
    exact h.readText (by simp [hm]) c
  · split at hs
    · next hc =>
      cases hs
      -- If this turns out to be literal text, it ends with the optional marker.
      refine ⟨h.done, fun _ => ?_⟩
      rw [List.head?_cons, hc]
      exact fun he => hn (Option.some.inj he)
    · split at hs
      · exact h.close hs
      · next hm _ _ =>
        cases hs
        exact ⟨h.done, fun hp => absurd hm hp⟩
  · next hm =>
    split at hs
    · exact h.close hs
    · cases hs
      exact h.readText (by simp [hm]) c

theorem readAll (ho : o.fault? = none) {text : List Char} : ∀ {s : State}, s.IsSound o →
    readAll o s text = .ok s' → s'.IsSound o := by
  induction text with
  | nil =>
    intro s h hs
    cases hs
    exact h
  | cons c text ih =>
    intro s h hs
    rw [Lexer.readAll, List.foldlM_cons] at hs
    cases hr : s.read o c with
    | error e => rw [hr] at hs; cases hs
    | ok s₁ =>
      rw [hr] at hs
      exact ih (h.read ho hr) hs

end State.IsSound

end Lexer

namespace Token

variable {o : Options} {template : String} {tokens : List Token}

/-- Every token of a template may be read. -/
theorem isRead_of_ofTemplate (ho : o.fault? = none) (h : ofTemplate o template = .ok tokens) :
    ∀ t ∈ tokens, t.IsRead o := by
  obtain ⟨s, hr, hm, rfl⟩ := exists_readAll_of_ofTemplate h
  have hi : Lexer.State.IsSound o {} := ⟨by simp, by simp⟩
  have hs := hi.readAll ho hr
  intro t ht
  exact hs.flushed (by simp [hm]) t (List.mem_reverse.1 ht)

/-- The placeholders of a template have valid names. -/
theorem validName_of_ofTemplate (ho : o.fault? = none) (h : ofTemplate o template = .ok tokens) :
    ∀ t ∈ tokens, ∀ name ∈ t.name?, validName name = true := by
  intro t ht name hn
  have hr := isRead_of_ofTemplate ho h t ht
  cases t with
  | placeholder x optional => cases hn; exact hr
  | _ => cases hn

end Token

end PathTemplate
