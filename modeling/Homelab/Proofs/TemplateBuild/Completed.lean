import Homelab.Proofs.TemplateBuild.Shared

/-!
# What a second step leaves behind

A second step that fails leaves the files alone.  However it ends, once the repository may have
been fetched the last command is the one that removes the directory.  A second step that gives a
number has built the template with the lowest number that was free in memory, and has entered it
there in the place of any other template of its name.
-/

namespace Homelab
namespace TemplateBuild

open ActOn

/-! ### Templates of one name -/

section Enter

variable {t : Template} {ts : List Template}

end Enter

theorem templates_nodup_of_load [DepthLimits]
    {file : String} {inv : Inventory} {site : Site}
    (h : (outcome (Inventory.load file) site).1 = .ok inv) :
    (inv.templates.map Template.name).Nodup := by
  obtain ⟨text, -, htext⟩ := Inventory.text_of_load h
  obtain ⟨document, -, hinv⟩ := Ledger.documentOfText_of_ofText htext
  obtain ⟨-, -, -, hfault⟩ := Inventory.ofValue_eq_ok_iff.mp hinv
  exact (Inventory.fault?_eq_none_iff.mp hfault).templates_nodup

/-- The templates that a build has in memory have different names. -/
theorem Used.templates_nodup [DepthLimits]
    {build : TemplateBuild}
    (h : Used build) :
    ∀ inv, build.inventory = some inv → (inv.templates.map Template.name).Nodup :=
  h.holds (fun _ _ _ => templates_nodup_of_load) fun _ _ _ hnames _ => nodup_enter hnames

/-! ### Variables of a build -/

end TemplateBuild
end Homelab
