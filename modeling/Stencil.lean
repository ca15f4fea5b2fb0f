import Stencil.Context
import Stencil.Convert.Datum
import Stencil.Host.Describe
import Stencil.Host.Hold
import Stencil.Proofs.Render.Concatenation
import Stencil.Proofs.Render.Fault
import Stencil.Proofs.Render.Offset
import Stencil.Proofs.Render.Strictness
import Stencil.Proofs.Scope.Snapshot
import Stencil.Proofs.Session.Freezing
import Stencil.Proofs.Session.Isolation
import Stencil.Proofs.Template.Condition
import Stencil.Proofs.Template.Offset.Matching
import Stencil.Proofs.Template.Loop
import Stencil.Proofs.Render.Loop
import Stencil.Proofs.Scope.Absence
import Stencil.Proofs.Session.Absence
import Stencil.Proofs.Scope.Walk
import Stencil.Proofs.Session.Walk
import Stencil.Proofs.Render.Choice
import Stencil.Proofs.Accessor.ShowThrough
import Stencil.Proofs.Accessor.Access
import Stencil.Proofs.Accessor.Overload
import Stencil.Proofs.Value.Equality
import Stencil.Proofs.Render.Skipping
import Stencil.Proofs.Accessor.View
import Stencil.Proofs.Accessor.Hooks
import Stencil.Proofs.Accessor.Building
import Stencil.Proofs.Context.Listing
import Stencil.Proofs.Render.Spelling
import Stencil.Proofs.Convert.Agreement
