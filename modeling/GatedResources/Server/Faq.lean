import GatedResources.Resource.Options

/-!
# The sample resource

Anyone reads, clients and admins ask, admins answer and prune. Filters on the status match
exactly.
-/

namespace GatedResources
namespace Faq

def options : ResourceOptions :=
  let policy := Policy.empty.openAction .find
  let policy := policy.addRule .create [.client, .admin]
  let policy := policy.addRule .update [.admin]
  let policy := policy.addRule .delete [.admin]
  { ResourceOptions.named "faqs" with
    policy
    transforms := Transforms.none.registerEquals "status" }

end Faq
end GatedResources
