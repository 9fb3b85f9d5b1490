import GraphGateway.Introspection.Cache
import GraphGateway.Main
import GraphGateway.Manifest
import GraphGateway.Package.Backend
import GraphGateway.Resolver.Compile
import GraphGateway.Schema.Stitch
import GraphGateway.Proofs.Cache.Refinement
import GraphGateway.Proofs.Delegation.Composition
import GraphGateway.Proofs.Delegation.Visiting
import GraphGateway.Proofs.Filter.Acceptance
import GraphGateway.Proofs.Filter.Confinement
import GraphGateway.Proofs.Filter.Junctions
import GraphGateway.Proofs.Loading.Remembering
import GraphGateway.Proofs.Package.Convergence
import GraphGateway.Proofs.Package.Search
import GraphGateway.Proofs.Path.Joining
import GraphGateway.Proofs.Path.Refusing
import GraphGateway.Proofs.PubSub.Capacity
import GraphGateway.Proofs.PubSub.Closing
import GraphGateway.Proofs.PubSub.Delivery
import GraphGateway.Proofs.PubSub.Publication
import GraphGateway.Proofs.Resolver.ArgumentAssembly
import GraphGateway.Proofs.Resolver.Exports
import GraphGateway.Proofs.Resolver.Exposure
import GraphGateway.Proofs.Resolver.Merging
import GraphGateway.Proofs.Resolver.Overrides
import GraphGateway.Proofs.Schema.Takeover
import GraphGateway.Proofs.Store.Identity
import GraphGateway.Proofs.Template.Agreement
import GraphGateway.Proofs.Text.SnakeCase
