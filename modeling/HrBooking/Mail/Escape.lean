import HrBooking.Text.Escape
import HrBooking.Text.Units

/-!
# Texts in mails

The escape functions of the mail templates.  Each template file has its own, and all of them make
the same five replacements.

* `htmlEntities` : the five replacements as a table whose words can be told apart.
* `esc_safeLossless` : what the escape functions leave out, and that they can be undone.
-/

namespace HrBooking

namespace BookingTemplates

/-- `esc` of `booking.templates.ts` -/
def esc (value : List CodeUnit) : List CodeUnit :=
  replaceEach [(unit '&', units "&amp;"), (unit '<', units "&lt;"), (unit '>', units "&gt;"),
    (unit '"', units "&quot;"), (unit '\'', units "&#039;")] value

end BookingTemplates

namespace HrProfileTemplates

/-- `esc` of `hr-profile.templates.ts` -/
def esc (value : List CodeUnit) : List CodeUnit :=
  replaceEach [(unit '&', units "&amp;"), (unit '<', units "&lt;"), (unit '>', units "&gt;"),
    (unit '"', units "&quot;"), (unit '\'', units "&#039;")] value

end HrProfileTemplates

namespace AccountTemplates

/-- `esc` of `account.templates.ts` -/
def esc (value : List CodeUnit) : List CodeUnit :=
  replaceEach [(unit '&', units "&amp;"), (unit '<', units "&lt;"), (unit '>', units "&gt;"),
    (unit '"', units "&quot;"), (unit '\'', units "&#039;")] value

end AccountTemplates

namespace AuthTemplates

/-- `escapeHtml` of `auth.templates.ts` -/
def escapeHtml (value : List CodeUnit) : List CodeUnit :=
  replaceEach [(unit '&', units "&amp;"), (unit '<', units "&lt;"), (unit '>', units "&gt;"),
    (unit '"', units "&quot;"), (unit '\'', units "&#039;")] value

end AuthTemplates

/-- The five replacements. -/
def htmlEntities : Escaping CodeUnit where
  mark := unit '&'
  entries := [(unit '&', units "&amp;"), (unit '<', units "&lt;"), (unit '>', units "&gt;"),
    (unit '"', units "&quot;"), (unit '\'', units "&#039;")]
  head_eq := by decide +kernel
  mark_notMem := by decide +kernel
  mark_mem := by decide +kernel
  ordered := by decide +kernel
  symbol_notMem := by decide +kernel
  prefix_free := by decide +kernel

/-- The function leaves no character with a meaning in HTML but ampersands that begin entities, and
reading the entities gives the text back. -/
structure SafeLossless (f : List CodeUnit → List CodeUnit) : Prop where
  notMem : ∀ s, ∀ c ∈ ['<', '>', '"', '\''], unit c ∉ f s
  entity : ∀ s i, (f s)[i]? = some (unit '&') →
    ∃ word ∈ ["&amp;", "&lt;", "&gt;", "&quot;", "&#039;"], units word <+: (f s).drop i
  unescape : ∀ s, htmlEntities.unescape (f s) = s
  injective : Function.Injective f

theorem htmlEntities_safeLossless : SafeLossless htmlEntities.escape := by
  have hunescape := htmlEntities.unescape_escape
  refine ⟨fun s c hc => ?_, fun s i hi => ?_, hunescape, ?_⟩
  · have hentries : ∀ c ∈ ['<', '>', '"', '\''], ∃ p ∈ htmlEntities.entries,
        p.1 = unit c ∧ p.1 ≠ htmlEntities.mark := List.all_iff_forall_prop.1 (by decide +kernel)
    obtain ⟨p, hp, heq, hne⟩ := hentries c hc
    exact heq ▸ Escaping.notMem_escape hp hne s
  · obtain ⟨p, hp, hprefix⟩ := Escaping.isPrefix_drop_escape s hi
    have hwords : ∀ p ∈ htmlEntities.entries,
        ∃ word ∈ ["&amp;", "&lt;", "&gt;", "&quot;", "&#039;"], units word = p.2 := by
      decide +kernel
    obtain ⟨word, hword, heq⟩ := hwords p hp
    exact ⟨word, hword, heq ▸ hprefix⟩
  · intro s t hst
    rw [← hunescape s, ← hunescape t, hst]

/-- **Escaping is safe and lossless** in every template file. -/
theorem esc_safeLossless :
    SafeLossless BookingTemplates.esc ∧ SafeLossless HrProfileTemplates.esc ∧
      SafeLossless AccountTemplates.esc ∧ SafeLossless AuthTemplates.escapeHtml :=
  have h := htmlEntities_safeLossless
  ⟨h, h, h, h⟩

end HrBooking
