import EtcdDruid.Go
import EtcdDruid.Objects
import EtcdDruid.Values
import EtcdDruid.Compose
import EtcdDruid.Client
import EtcdDruid.Retry
import EtcdDruid.Deploy
import EtcdDruid.Platform
import EtcdDruid.Wait
import EtcdDruid.References
import EtcdDruid.Lifecycle
import EtcdDruid.Errors
